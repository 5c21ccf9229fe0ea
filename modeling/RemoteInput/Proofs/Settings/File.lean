import RemoteInput.Settings.File

/-!
# What a settings file says

Of each table a settings file keeps the values under its keys: nothing if the
key, or the whole table, is left out, and else the value, which must be one that
the key can have.  A document that breaks this in one place says nothing at all.
-/

namespace RemoteInput

namespace FileSettings

open Toml (Value)

/-- The values under the keys of a table that may be left out. -/
def entries? (keys : List String) : Option Value → Option (List (Option Value))
  | none => some (keys.map fun _ => none)
  | some table => fields? keys table

/-- What the table about the server says. -/
def ServerSays (table : Option Value) (file : FileSettings) : Prop :=
  ∃ sessionId display powerOn control maxLineLength,
    entries? serverKeys table =
      some [sessionId, display, powerOn, control, maxLineLength] ∧
    optional text? sessionId = some file.sessionId ∧
    optional display? display = some file.display ∧
    optional truth? powerOn = some file.powerOn ∧
    optional truth? control = some file.control ∧
    optional (natural? (Nat.pow 2 64)) maxLineLength = some file.maxLineLength

/-- What the table about the control stream says. -/
def TransportSays (table : Option Value) (file : FileSettings) : Prop :=
  ∃ tunnelForward sendDummyByte tcp,
    entries? transportKeys table = some [tunnelForward, sendDummyByte, tcp] ∧
    optional truth? tunnelForward = some file.tunnelForward ∧
    optional truth? sendDummyByte = some file.sendDummyByte ∧
    optional (fun value => (text? value).bind SocketAddress.ofText?) tcp = some file.tcp

/-- What the table about logging says. -/
def LoggingSays (table : Option Value) (file : FileSettings) : Prop :=
  ∃ level, entries? loggingKeys table = some [level] ∧
    optional (fun value => (text? value).bind Verbosity.ofText?) level = some file.verbosity

/-- What a document says, table by table. -/
def Says (root : Value) (file : FileSettings) : Prop :=
  ∃ server transport logging,
    fields? ["server", "transport", "logging"] root = some [server, transport, logging] ∧
    ServerSays server file ∧ TransportSays transport file ∧ LoggingSays logging file

/-! ## Reading tables -/

private theorem readServer_iff {table : Option Value} {file : FileSettings} :
    readTable? readServer {} table = some file ↔
      ServerSays table file ∧
        file = { file with
          tunnelForward := none, sendDummyByte := none, tcp := none, verbosity := none } := by
  cases table with
  | none =>
      constructor
      · intro read
        cases read
        exact ⟨⟨none, none, none, none, none, rfl, rfl, rfl, rfl, rfl, rfl⟩, rfl⟩
      · rintro ⟨⟨_, _, _, _, _, values, kept⟩, rest⟩
        cases values
        simp only [optional, Option.some.injEq] at kept
        rw [rest]
        simp [readTable?, ← kept]
  | some table =>
      simp only [readTable?, readServer, Option.bind_eq_bind, Option.bind_eq_some_iff]
      constructor
      · rintro ⟨values, keys, read⟩
        split at read
        · simp only [Option.bind_eq_some_iff, Option.some.injEq] at read
          obtain ⟨_, sessionId, _, display, _, powerOn, _, control, _, length, same⟩ := read
          subst same
          exact ⟨⟨_, _, _, _, _, keys, sessionId, display, powerOn, control, length⟩, rfl⟩
        · cases read
      · rintro ⟨⟨_, _, _, _, _, keys, sessionId, display, powerOn, control, length⟩, rest⟩
        refine ⟨_, keys, ?_⟩
        simp only [sessionId, display, powerOn, control, length, Option.bind_some]
        exact congrArg some rest.symm

private theorem readTransport_iff {settings file : FileSettings} {table : Option Value}
    (unset : settings = { settings with
      tunnelForward := none, sendDummyByte := none, tcp := none }) :
    readTable? readTransport settings table = some file ↔
      TransportSays table file ∧
        file = { settings with
          tunnelForward := file.tunnelForward
          sendDummyByte := file.sendDummyByte
          tcp := file.tcp } := by
  cases table with
  | none =>
      constructor
      · intro read
        cases read
        refine ⟨⟨none, none, none, rfl, ?_⟩, rfl⟩
        rw [unset]
        exact ⟨rfl, rfl, rfl⟩
      · rintro ⟨⟨_, _, _, values, kept⟩, rest⟩
        cases values
        simp only [optional, Option.some.injEq] at kept
        rw [rest, ← kept.1, ← kept.2.1, ← kept.2.2, ← unset]
        rfl
  | some table =>
      simp only [readTable?, readTransport, Option.bind_eq_bind, Option.bind_eq_some_iff]
      constructor
      · rintro ⟨values, keys, read⟩
        split at read
        · simp only [Option.bind_eq_some_iff, Option.some.injEq] at read
          obtain ⟨_, tunnelForward, _, sendDummyByte, _, tcp, same⟩ := read
          subst same
          exact ⟨⟨_, _, _, keys, tunnelForward, sendDummyByte, tcp⟩, rfl⟩
        · cases read
      · rintro ⟨⟨_, _, _, keys, tunnelForward, sendDummyByte, tcp⟩, rest⟩
        refine ⟨_, keys, ?_⟩
        simp only [tunnelForward, sendDummyByte, tcp, Option.bind_some]
        exact congrArg some rest.symm

private theorem readLogging_iff {settings file : FileSettings} {table : Option Value}
    (unset : settings.verbosity = none) :
    readTable? readLogging settings table = some file ↔
      LoggingSays table file ∧ file = { settings with verbosity := file.verbosity } := by
  cases table with
  | none =>
      constructor
      · intro read
        cases read
        exact ⟨⟨none, rfl, by rw [unset]; rfl⟩, rfl⟩
      · rintro ⟨⟨_, values, kept⟩, rest⟩
        cases values
        simp only [optional, Option.some.injEq] at kept
        rw [rest, ← kept, ← unset]
        rfl
  | some table =>
      simp only [readTable?, readLogging, Option.bind_eq_bind, Option.bind_eq_some_iff]
      constructor
      · rintro ⟨values, keys, read⟩
        split at read
        · simp only [Option.bind_eq_some_iff, Option.some.injEq] at read
          obtain ⟨_, level, same⟩ := read
          subst same
          exact ⟨⟨_, keys, level⟩, rfl⟩
        · cases read
      · rintro ⟨⟨_, keys, level⟩, rest⟩
        refine ⟨_, keys, ?_⟩
        simp only [level, Option.bind_some]
        exact congrArg some rest.symm

/-- A document is accepted just if it says something, and then it is read as
that. -/
theorem parse?_eq_some_iff {document : String} {file : FileSettings} :
    parse? document = some file ↔ ∃ root, Toml.parse? document = some root ∧ Says root file := by
  simp only [parse?, Option.bind_eq_bind, Option.bind_eq_some_iff]
  constructor
  · rintro ⟨root, isRoot, tables, areTables, read⟩
    refine ⟨root, isRoot, ?_⟩
    split at read
    · next server transport logging =>
      simp only [Option.bind_eq_some_iff] at read
      obtain ⟨first, readFirst, second, readSecond, readLast⟩ := read
      obtain ⟨ofServer, isFirst⟩ := readServer_iff.mp readFirst
      obtain ⟨ofTransport, isSecond⟩ := (readTransport_iff (by rw [isFirst])).mp readSecond
      obtain ⟨ofLogging, isLast⟩ := (readLogging_iff (by rw [isSecond, isFirst])).mp readLast
      refine ⟨server, transport, logging, areTables, ?_, ?_, ofLogging⟩
      · rw [isLast, isSecond]
        exact ofServer
      · rw [isLast]
        exact ofTransport
    · cases read
  · rintro ⟨root, isRoot, server, transport, logging, areTables, ofServer, ofTransport, ofLogging⟩
    refine ⟨root, isRoot, _, areTables, ?_⟩
    let first := { file with
      tunnelForward := none, sendDummyByte := none, tcp := none, verbosity := none }
    let second := { file with verbosity := none }
    have readFirst : readTable? readServer {} server = some first :=
      readServer_iff.mpr ⟨ofServer, rfl⟩
    have readSecond : readTable? readTransport first transport = some second :=
      (readTransport_iff rfl).mpr ⟨ofTransport, rfl⟩
    have readLast : readTable? readLogging second logging = some file :=
      (readLogging_iff rfl).mpr ⟨ofLogging, rfl⟩
    simp only [Option.bind_eq_some_iff]
    exact ⟨first, readFirst, second, readSecond, readLast⟩

end FileSettings

end RemoteInput
