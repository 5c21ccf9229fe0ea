import RemoteInput.Proofs.Settings.File
import RemoteInput.Settings.Resolution

/-!
# Where settings come from

`Resolves` says how a start ends without saying how the settings are put
together: which check fails first, and else where each setting comes from.  The
program puts the file together before it looks at the options, and so it has to
name the local socket twice; `resolve_by_precedence` says that nothing is left
over from the first time.
-/

namespace RemoteInput

/-- A setting is what its option says, else what the file says, else what is
standard. -/
inductive Chosen {α : Type} (standard : α) : Option α → Option α → α → Prop where
  | option (value : α) (file : Option α) : Chosen standard (some value) file value
  | file (value : α) : Chosen standard none (some value) value
  | standard : Chosen standard none none standard

theorem Chosen.of_getD {α : Type} (standard : α) (option file : Option α) :
    Chosen standard option file (option.getD (file.getD standard)) := by
  cases option with
  | some value => exact .option value file
  | none =>
      cases file with
      | some value => exact .file value
      | none => exact .standard

theorem Chosen.over {α : Type} {standard value : α} {file : Option α}
    (chosen : Chosen standard none file value) (option : Option α) :
    Chosen standard option file (option.getD value) := by
  cases option with
  | some other => exact .option other file
  | none => exact chosen

theorem Chosen.unique {α : Type} {standard first second : α} {option file : Option α}
    (chosen : Chosen standard option file first)
    (other : Chosen standard option file second) : first = second := by
  cases chosen with
  | option =>
      cases other
      rfl
  | file =>
      cases other
      rfl
  | standard =>
      cases other
      rfl

/-- A text that is left out names no session id; one that is given must name a
session id, or that there is none. -/
inductive SessionId.Names : Option String → Option (Option SessionId) → Prop where
  | nothing : Names none none
  | given {text : String} {id : Option SessionId} (read : SessionId.ofOption text = .ok id) :
      Names (some text) (some id)

theorem SessionId.Names.unique {text : Option String} {first second : Option (Option SessionId)}
    (names : Names text first) (other : Names text second) : first = second := by
  cases names with
  | nothing =>
      cases other
      rfl
  | given read =>
      cases other with
      | given readToo =>
          rw [read] at readToo
          cases readToo
          rfl

namespace Settings

/-- Where each setting comes from.  The local socket that stands for no address
has the name of the session id that is settled on. -/
structure Settled (options : Options) (file : FileSettings) (settings : Settings) :
    Prop where
  sessionId : ∃ optionId fileId, SessionId.Names options.sessionId optionId ∧
    SessionId.Names file.sessionId fileId ∧
    Chosen none optionId fileId settings.sessionId
  display : Chosen ⟨0⟩ options.display file.display settings.display
  powerOn : Chosen true options.powerOn file.powerOn settings.powerOn
  control : Chosen true options.control file.control settings.control
  endpoint : Chosen (.localSocket (socketName settings.sessionId))
    (options.tcp.map .tcp) (file.tcp.map .tcp) settings.endpoint
  tunnelForward : Chosen false options.tunnelForward file.tunnelForward settings.tunnelForward
  sendDummyByte : Chosen true options.sendDummyByte file.sendDummyByte settings.sendDummyByte
  verbosity : Chosen .info options.verbosity file.verbosity settings.verbosity
  maxLineLength : Chosen 8388608 options.maxLineLength file.maxLineLength
    settings.maxLineLength

theorem Settled.unique {options : Options} {file : FileSettings} {first second : Settings}
    (settled : Settled options file first) (other : Settled options file second) :
    first = second := by
  obtain ⟨optionId, fileId, names, namesFile, chosen⟩ := settled.sessionId
  obtain ⟨_, _, namesToo, namesFileToo, chosenToo⟩ := other.sessionId
  obtain rfl := names.unique namesToo
  obtain rfl := namesFile.unique namesFileToo
  have sessionId := chosen.unique chosenToo
  have endpoint := settled.endpoint
  rw [sessionId] at endpoint
  cases first
  cases second
  simp only [Settings.mk.injEq]
  exact ⟨sessionId, settled.display.unique other.display,
    settled.powerOn.unique other.powerOn, settled.control.unique other.control,
    endpoint.unique other.endpoint, settled.tunnelForward.unique other.tunnelForward,
    settled.sendDummyByte.unique other.sendDummyByte,
    settled.verbosity.unique other.verbosity,
    settled.maxLineLength.unique other.maxLineLength⟩

/-- A local socket has the name of the session id that is settled on. -/
theorem Settled.name_of_localSocket {options : Options} {file : FileSettings}
    {settings : Settings} (settled : Settled options file settings) {name : String}
    (isLocal : settings.endpoint = .localSocket name) :
    name = socketName settings.sessionId := by
  have endpoint := settled.endpoint
  rw [isLocal] at endpoint
  cases isOption : options.tcp with
  | some address =>
      rw [isOption] at endpoint
      cases endpoint.unique (.option (Endpoint.tcp address) _)
  | none =>
      rw [isOption] at endpoint
      cases isFile : file.tcp with
      | some address =>
          rw [isFile] at endpoint
          cases endpoint.unique (.file (Endpoint.tcp address))
      | none =>
          rw [isFile] at endpoint
          cases endpoint.unique .standard
          rfl

variable {readFile : String → Except SystemError String} {options : Options}

/-- The client gives no version, or that of the server. -/
def Accepts (version : Option String) : Prop :=
  ∀ client, version = some client → client = serverVersion

/-- What the settings file says: nothing if none is given. -/
inductive Loads (readFile : String → Except SystemError String) :
    Option String → FileSettings → Prop where
  | nothing : Loads readFile none {}
  | file {path document : String} {root : Toml.Value} {file : FileSettings}
      (read : readFile path = .ok document) (parsed : Toml.parse? document = some root)
      (said : FileSettings.Says root file) : Loads readFile (some path) file

/-- How a start ends: with the first check that fails, or with the settings. -/
inductive Resolves (readFile : String → Except SystemError String) (options : Options) :
    Except StartupError Settings → Prop where
  | versionMismatch {client : String} (given : options.clientVersion = some client)
      (other : client ≠ serverVersion) :
      Resolves readFile options (.error (.versionMismatch client))
  | unreadableFile {path : String} {reason : SystemError}
      (accepted : Accepts options.clientVersion) (given : options.config = some path)
      (failed : readFile path = .error reason) :
      Resolves readFile options (.error (.unreadableFile path reason))
  | malformedFile {path document : String} (accepted : Accepts options.clientVersion)
      (given : options.config = some path) (read : readFile path = .ok document)
      (malformed : ∀ root file, Toml.parse? document = some root →
        ¬ FileSettings.Says root file) :
      Resolves readFile options (.error (.malformedFile path))
  | fileSessionId {file : FileSettings} {text : String} {error : SessionId.ReadError}
      (accepted : Accepts options.clientVersion)
      (loaded : Loads readFile options.config file) (given : file.sessionId = some text)
      (invalid : SessionId.ofOption text = .error error) :
      Resolves readFile options (.error (.fileSessionId error))
  | optionSessionId {file : FileSettings} {text : String}
      {fileId : Option (Option SessionId)} {error : SessionId.ReadError}
      (accepted : Accepts options.clientVersion)
      (loaded : Loads readFile options.config file)
      (names : SessionId.Names file.sessionId fileId)
      (given : options.sessionId = some text)
      (invalid : SessionId.ofOption text = .error error) :
      Resolves readFile options (.error (.optionSessionId text error))
  | settled {file : FileSettings} {settings : Settings}
      (accepted : Accepts options.clientVersion)
      (loaded : Loads readFile options.config file)
      (settled : Settled options file settings) :
      Resolves readFile options (.ok settings)

/-! ## The checks -/

private theorem checkVersion_of_accepts {version : Option String}
    (accepted : Accepts version) : checkVersion version = .ok () := by
  cases version with
  | none => rfl
  | some client => exact if_pos (accepted client rfl)

private theorem loadFile_of_loads {config : Option String} {file : FileSettings}
    (loaded : Loads readFile config file) : loadFile readFile config = .ok file := by
  cases loaded with
  | nothing => rfl
  | file read parsed said =>
      have accepted := FileSettings.parse?_eq_some_iff.mpr ⟨_, parsed, said⟩
      simp only [loadFile, read, accepted]

theorem accepts_or_mismatch (version : Option String) :
    Accepts version ∨ ∃ client, version = some client ∧ client ≠ serverVersion := by
  cases version with
  | none => exact .inl nofun
  | some client =>
      by_cases same : client = serverVersion
      · left
        intro other isOther
        cases isOther
        exact same
      · exact .inr ⟨client, rfl, same⟩

theorem names_or_invalid (text : Option String) :
    (∃ id, SessionId.Names text id) ∨
      ∃ given error, text = some given ∧ SessionId.ofOption given = .error error := by
  cases text with
  | none => exact .inl ⟨none, .nothing⟩
  | some given =>
      cases read : SessionId.ofOption given with
      | ok id => exact .inl ⟨some id, .given read⟩
      | error error => exact .inr ⟨given, error, rfl, read⟩

private theorem ofFile_of_invalid {file : FileSettings} {text : String}
    {error : SessionId.ReadError} (given : file.sessionId = some text)
    (invalid : SessionId.ofOption text = .error error) : ofFile file = .error error := by
  unfold ofFile
  rw [given]
  dsimp only
  rw [invalid]
  rfl

private theorem resolve_of_loads {file : FileSettings}
    (accepted : Accepts options.clientVersion) (loaded : Loads readFile options.config file) :
    resolve readFile options = (do
      let settings ← (ofFile file).mapError .fileSessionId
      let settings ← settings.takeSession options.sessionId
      return settings.override options) := by
  unfold resolve
  rw [checkVersion_of_accepts accepted, loadFile_of_loads loaded]
  rfl

/-! ## Putting the settings together -/

private theorem settled_ofFileFor {file : FileSettings} {fileId : Option (Option SessionId)}
    (names : SessionId.Names file.sessionId fileId) {id : Option SessionId}
    (chosen : Chosen none none fileId id) : Settled {} file (ofFileFor file id) := by
  have endpoint : Chosen (.localSocket (socketName id)) none (file.tcp.map Endpoint.tcp)
      (ofFileFor file id).endpoint := by
    unfold ofFileFor
    cases file.tcp with
    | some address => exact .file (Endpoint.tcp address)
    | none => exact .standard
  exact
    { sessionId := ⟨none, fileId, .nothing, names, chosen⟩
      display := .of_getD _ none _
      powerOn := .of_getD _ none _
      control := .of_getD _ none _
      endpoint
      tunnelForward := .of_getD _ none _
      sendDummyByte := .of_getD _ none _
      verbosity := .of_getD _ none _
      maxLineLength := .of_getD _ none _ }

/-- Without options, the settings are those of the file. -/
theorem settled_ofFile {file : FileSettings} {fileId : Option (Option SessionId)}
    (names : SessionId.Names file.sessionId fileId) :
    ∃ settings, ofFile file = .ok settings ∧ Settled {} file settings := by
  unfold ofFile
  cases text : file.sessionId with
  | none =>
      have nameless := names
      rw [text] at nameless
      cases nameless
      exact ⟨_, rfl, settled_ofFileFor names .standard⟩
  | some given =>
      have named := names
      rw [text] at named
      cases named with
      | given read =>
          dsimp only
          rw [read]
          exact ⟨_, rfl, settled_ofFileFor names (.file _)⟩

/-- Taking the session id of an option settles the session id, and with it the
name of the local socket. -/
theorem Settled.takeSession {file : FileSettings} {settings : Settings}
    (settled : Settled {} file settings) {text : Option String}
    {optionId : Option (Option SessionId)} (names : SessionId.Names text optionId) :
    ∃ named, settings.takeSession text = .ok named ∧
      Settled { sessionId := text } file named := by
  cases names with
  | nothing => exact ⟨settings, rfl, settled⟩
  | @given text id read =>
      refine ⟨settings.withSession id, ?_, ?_⟩
      · simp only [Settings.takeSession, read]
      · obtain ⟨_, fileId, _, namesFile, _⟩ := settled.sessionId
        have endpoint : Chosen (.localSocket (socketName id)) none (file.tcp.map Endpoint.tcp)
            (settings.withSession id).endpoint := by
          have before := settled.endpoint
          unfold withSession
          cases tcp : file.tcp with
          | some address =>
              rw [tcp] at before
              have same := before.unique (.file (Endpoint.tcp address))
              rw [same]
              exact .file (Endpoint.tcp address)
          | none =>
              rw [tcp] at before
              have same := before.unique .standard
              rw [same]
              exact .standard
        exact { settled with
          sessionId := ⟨some id, fileId, .given read, namesFile, .option id fileId⟩
          endpoint }

/-- Taking the other options settles the other settings. -/
theorem Settled.override {file : FileSettings} {settings : Settings}
    (settled : Settled { sessionId := options.sessionId } file settings) :
    Settled options file (settings.override options) := by
  have endpoint : Chosen (.localSocket (socketName settings.sessionId))
      (options.tcp.map Endpoint.tcp) (file.tcp.map Endpoint.tcp)
      (settings.override options).endpoint := by
    unfold Settings.override
    cases options.tcp with
    | some address => exact .option (Endpoint.tcp address) _
    | none => exact settled.endpoint
  exact
    { sessionId := settled.sessionId
      display := settled.display.over _
      powerOn := settled.powerOn.over _
      control := settled.control.over _
      endpoint
      tunnelForward := settled.tunnelForward.over _
      sendDummyByte := settled.sendDummyByte.over _
      verbosity := settled.verbosity.over _
      maxLineLength := settled.maxLineLength.over _ }

/-- If all checks pass there are settings, and the program gives them. -/
theorem settled_resolve {file : FileSettings} {fileId optionId : Option (Option SessionId)}
    (accepted : Accepts options.clientVersion) (loaded : Loads readFile options.config file)
    (namesFile : SessionId.Names file.sessionId fileId)
    (names : SessionId.Names options.sessionId optionId) :
    ∃ settings, resolve readFile options = .ok settings ∧ Settled options file settings := by
  obtain ⟨alone, isAlone, settledAlone⟩ := settled_ofFile namesFile
  obtain ⟨named, isNamed, settledNamed⟩ := settledAlone.takeSession names
  refine ⟨named.override options, ?_, settledNamed.override⟩
  rw [resolve_of_loads accepted loaded, isAlone]
  change (alone.takeSession options.sessionId >>= fun settings =>
    .ok (settings.override options)) = .ok (named.override options)
  rw [isNamed]
  rfl

/-! ## All starts -/

/-- Every start ends in some way. -/
theorem Resolves.total (readFile : String → Except SystemError String) (options : Options) :
    ∃ result, Resolves readFile options result := by
  rcases accepts_or_mismatch options.clientVersion with accepted | ⟨client, given, other⟩
  · have loads : (∃ file, Loads readFile options.config file) ∨
        ∃ error, Resolves readFile options (.error error) := by
      cases config : options.config with
      | none => exact .inl ⟨{}, .nothing⟩
      | some path =>
          cases read : readFile path with
          | error reason => exact .inr ⟨_, .unreadableFile accepted config read⟩
          | ok document =>
              by_cases said : ∃ root file, Toml.parse? document = some root ∧
                  FileSettings.Says root file
              · obtain ⟨root, file, parsed, said⟩ := said
                exact .inl ⟨file, .file read parsed said⟩
              · right
                refine ⟨_, .malformedFile accepted config read ?_⟩
                intro root file parsed same
                exact said ⟨root, file, parsed, same⟩
    rcases loads with ⟨file, loaded⟩ | ⟨error, resolves⟩
    · rcases names_or_invalid file.sessionId with
        ⟨fileId, namesFile⟩ | ⟨text, error, given, invalid⟩
      · rcases names_or_invalid options.sessionId with
          ⟨optionId, names⟩ | ⟨text, error, given, invalid⟩
        · obtain ⟨settings, _, settled⟩ := settled_resolve accepted loaded namesFile names
          exact ⟨_, .settled accepted loaded settled⟩
        · exact ⟨_, .optionSessionId accepted loaded namesFile given invalid⟩
      · exact ⟨_, .fileSessionId accepted loaded given invalid⟩
    · exact ⟨_, resolves⟩
  · exact ⟨_, .versionMismatch given other⟩

/-- The program ends its start as it must. -/
theorem Resolves.result {result : Except StartupError Settings}
    (resolves : Resolves readFile options result) : resolve readFile options = result := by
  cases resolves with
  | versionMismatch given other =>
      simp only [resolve, given, checkVersion, if_neg other]
      rfl
  | unreadableFile accepted given failed =>
      simp only [resolve, checkVersion_of_accepts accepted, given, loadFile, failed]
      rfl
  | @malformedFile path document accepted given read malformed =>
      have refused : FileSettings.parse? document = none := by
        cases parsed : FileSettings.parse? document with
        | none => rfl
        | some file =>
            obtain ⟨root, isRoot, said⟩ := FileSettings.parse?_eq_some_iff.mp parsed
            exact absurd said (malformed root file isRoot)
      simp only [resolve, checkVersion_of_accepts accepted, given, loadFile, read, refused]
      rfl
  | fileSessionId accepted loaded given invalid =>
      rw [resolve_of_loads accepted loaded, ofFile_of_invalid given invalid]
      rfl
  | @optionSessionId file text fileId error accepted loaded namesFile given invalid =>
      obtain ⟨alone, isAlone, _⟩ := settled_ofFile namesFile
      have refused : alone.takeSession options.sessionId =
          .error (.optionSessionId text error) := by
        simp only [Settings.takeSession, given, invalid]
      rw [resolve_of_loads accepted loaded, isAlone]
      change (alone.takeSession options.sessionId >>= fun settings =>
        .ok (settings.override options)) = _
      rw [refused]
      rfl
  | settled accepted loaded settled =>
      obtain ⟨_, _, names, namesFile, _⟩ := settled.sessionId
      obtain ⟨other, resolved, settledToo⟩ := settled_resolve accepted loaded namesFile names
      rw [resolved, settled.unique settledToo]

/-- The first check that fails decides how a start ends; if all pass, each setting
comes from its option, else from the file, else it is standard, and a local
socket has the name of the session id. -/
theorem resolve_by_precedence (readFile : String → Except SystemError String)
    (options : Options) :
    (∀ result, resolve readFile options = result ↔ Resolves readFile options result) ∧
    ((∃ settings, resolve readFile options = .ok settings) ↔
      Accepts options.clientVersion ∧
        ∃ file fileId optionId, Loads readFile options.config file ∧
          SessionId.Names file.sessionId fileId ∧
          SessionId.Names options.sessionId optionId) ∧
    ∀ settings name, resolve readFile options = .ok settings →
      settings.endpoint = .localSocket name → name = socketName settings.sessionId := by
  have resolves : ∀ result, resolve readFile options = result ↔
      Resolves readFile options result := by
    intro result
    constructor
    · intro resolved
      obtain ⟨other, resolves⟩ := Resolves.total readFile options
      rw [← resolved, resolves.result]
      exact resolves
    · exact Resolves.result
  refine ⟨resolves, ?_, ?_⟩
  · constructor
    · rintro ⟨settings, resolved⟩
      cases (resolves _).mp resolved with
      | settled accepted loaded settled =>
          obtain ⟨optionId, fileId, names, namesFile, _⟩ := settled.sessionId
          exact ⟨accepted, _, fileId, optionId, loaded, namesFile, names⟩
    · rintro ⟨accepted, file, fileId, optionId, loaded, namesFile, names⟩
      obtain ⟨settings, resolved, _⟩ := settled_resolve accepted loaded namesFile names
      exact ⟨settings, resolved⟩
  · intro settings name resolved isLocal
    cases (resolves _).mp resolved with
    | settled accepted loaded settled => exact settled.name_of_localSocket isLocal

end Settings

end RemoteInput
