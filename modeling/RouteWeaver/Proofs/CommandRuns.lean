import RouteWeaver.CommandLine
import RouteWeaver.Proofs.CodeLines
import RouteWeaver.Proofs.LoadedModels
import RouteWeaver.Proofs.UnresolvedReport
import RouteWeaver.Proofs.WrittenFiles

namespace RouteWeaver.CommandLine

open Text

/-- The arguments ask for the command, at whatever verbosity. -/
def Asks (arguments : List String) (command : Command) : Prop :=
  ∃ verbosity, Request.ofArguments arguments = .run verbosity command

def Command.model : Command → String
  | generate options => options.model
  | check path => path

def Outcome.errorText (o : Outcome) : String :=
  String.join (o.messages.map (· ++ "\n"))

theorem run_of_asks {arguments : List String} {command : Command}
    (asks : Asks arguments command) (environment : Option String) (files : FileSystem) :
    ∃ events, run environment arguments files = { command.run files with events } := by
  obtain ⟨verbosity, request⟩ := asks
  rw [run, request]
  exact ⟨_, rfl⟩

variable {files : FileSystem} {path : String} {m : Model}

theorem definitions_of_load_error {e : LoadError} (failed : Model.load files path = .error e) :
    ∃ events, definitions files path = (events, .error e) := by
  rw [Model.load] at failed
  cases loaded : Source.load files path with
  | error e' =>
    obtain rfl : e' = e := by simpa [loaded, bind, Except.bind] using failed
    exact ⟨_, by unfold definitions; rw [loaded]⟩
  | ok source =>
    cases read : source.fields with
    | error e' =>
      obtain rfl : e' = e := by simpa [loaded, bind, Except.bind, Source.model, read] using failed
      exact ⟨_, by unfold definitions; simp only [loaded, read]; rfl⟩
    | ok fields => simp [loaded, bind, Except.bind, Source.model, read] at failed

theorem definitions_of_load (loads : Model.load files path = .ok m) :
    ∃ events fields, definitions files path = (events, .ok fields) ∧ fields.model = m := by
  obtain ⟨source, loaded, loads⟩ := bind_eq_ok.mp loads
  obtain ⟨fields, read, same⟩ := map_eq_ok.mp loads
  refine ⟨.loading path :: fields.events, fields, ?_, same⟩
  unfold definitions
  rw [loaded]
  simp only [read]

/-- A model that cannot be read ends a run, and leaves it silent. -/
theorem run_of_load_error (command : Command) {e : LoadError}
    (failed : Model.load files command.model = .error e) :
    ∃ events, command.run files = .broken files events (loadFailure command.model e) := by
  obtain ⟨events, defined⟩ := definitions_of_load_error failed
  refine ⟨events, ?_⟩
  cases command with
  | generate options =>
    rw [Command.run]
    unfold Generate.run
    simp only [Command.model] at defined
    rw [defined]
    rfl
  | check path =>
    rw [Command.run]
    unfold CommandLine.check
    simp only [Command.model] at defined
    rw [defined]
    rfl

/-- The runtime path takes no part in the rules that serve a request. -/
theorem Generate.unresolved_adjusted (o : Generate) (m : Model) :
    (o.adjusted m).unresolved = m.unresolved := by
  cases crate : o.runtimeCrate with
  | none => rw [adjusted, crate]
  | some path =>
    rw [adjusted, crate]
    exact Model.unresolved_congr rfl fun request =>
      ⟨fun ⟨a, b, c, d, e⟩ => ⟨a, b, c, d, e⟩, fun ⟨a, b, c, d, e⟩ => ⟨a, b, c, d, e⟩⟩

namespace Generate

def Denies (o : Generate) (m : Model) : Prop :=
  o.denyUnresolved = true ∧ m.unresolved ≠ []

theorem denies_iff (o : Generate) (m : Model) :
    (o.denyUnresolved && !(o.adjusted m).generate.isComplete) = true ↔ o.Denies m := by
  rw [Generated.isComplete, Model.generate, unresolved_adjusted, Denies]
  simp

theorem run_of_denies {o : Generate} (loads : Model.load files o.model = .ok m)
    (denies : o.Denies m) : ∃ events, o.run files =
      { status := .failure, messages := report (o.adjusted m).generate, events, files } := by
  obtain ⟨events, fields, defined, rfl⟩ := definitions_of_load loads
  unfold run
  rw [defined]
  exact ⟨_, if_pos ((o.denies_iff _).mpr denies)⟩

theorem run_of_print {o : Generate} (loads : Model.load files o.model = .ok m)
    (allows : ¬ o.Denies m) (prints : o.output = none) : ∃ events, o.run files =
      { status := .success, output := (o.adjusted m).generate.source, events, files } := by
  obtain ⟨events, fields, defined, rfl⟩ := definitions_of_load loads
  unfold run
  rw [defined]
  simp only [if_neg (mt (o.denies_iff _).mp allows), prints]
  exact ⟨_, rfl⟩

theorem run_of_write {o : Generate} (loads : Model.load files o.model = .ok m)
    (allows : ¬ o.Denies m) (writes : o.output = some path) :
    (o.run files).files = (files.deliver path (o.adjusted m).generate.source.toUTF8).1 ∧
      ((o.run files).status.code = 0 ↔
        (files.deliver path (o.adjusted m).generate.source.toUTF8).2 = none) := by
  obtain ⟨events, fields, defined, rfl⟩ := definitions_of_load loads
  unfold run
  rw [defined]
  simp only [if_neg (mt (o.denies_iff _).mp allows), writes]
  cases delivered : files.deliver path (o.adjusted fields.model).generate.source.toUTF8 with
  | mk left fault =>
    cases fault with
    | none => simp [Status.code]
    | some e => simp [Outcome.broken, Status.code]

end Generate

theorem check_of_load (loads : Model.load files path = .ok m) :
    (check path files).status = if m.unresolved = [] then .success else .failure := by
  obtain ⟨events, fields, defined, rfl⟩ := definitions_of_load loads
  unfold check
  rw [defined]
  exact if_congr List.isEmpty_iff rfl rfl

/-- A model that can be read is denied just when it is incomplete. -/
theorem check_code_iff (files : FileSystem) (path : String) (crate : Option String) :
    ((Command.check path).run files).status.code = 0 ↔
      ((Command.generate ⟨path, none, crate, true⟩).run files).status.code = 0 := by
  cases loaded : Model.load files path with
  | error e =>
    obtain ⟨_, broken⟩ := run_of_load_error (.check path) loaded
    obtain ⟨_, broken'⟩ := run_of_load_error (.generate ⟨path, none, crate, true⟩) loaded
    rw [broken, broken']
    rfl
  | ok m =>
    rw [Command.run, Command.run, check_of_load loaded]
    by_cases complete : m.unresolved = []
    · obtain ⟨_, prints⟩ := Generate.run_of_print (o := ⟨path, none, crate, true⟩) loaded
        (fun denies => denies.2 complete) rfl
      rw [prints, if_pos complete]
    · obtain ⟨_, refused⟩ := Generate.run_of_denies (o := ⟨path, none, crate, true⟩) loaded
        ⟨rfl, complete⟩
      rw [refused, if_neg complete]

theorem report_adjusted (o : Generate) (m : Model) : report (o.adjusted m).generate =
    m.unresolved.map fun u => "unresolved: " ++ u.message := by
  rw [report, Model.generate, Generate.unresolved_adjusted]

theorem physicalLines_errorText {o : Outcome} (single : ∀ line ∈ o.messages, '\n' ∉ line.toList) :
    physicalLines o.errorText.toList = o.messages.map fun line => line.toList ++ ['\n'] := by
  have written : o.errorText.toList =
      (o.messages.map fun line => line.toList ++ ['\n']).flatten := by
    rw [Outcome.errorText, String.toList_join, List.flatMap_def, List.map_map]
    congr 1
    exact List.map_congr_left fun line _ => String.toList_append
  rw [written]
  refine physicalLines_flatten fun shown member => ?_
  obtain ⟨line, listed, rfl⟩ := List.mem_map.mp member
  exact ⟨line.toList, single line listed, rfl⟩

theorem notMem_append {c : Char} {s t : String} :
    c ∉ (s ++ t).toList ↔ c ∉ s.toList ∧ c ∉ t.toList := by
  rw [String.toList_append, List.mem_append, not_or]

/-- Only the free texts of a report can break its lines. -/
theorem feed_notMem_message {u : Unresolved} (behavior : '\n' ∉ u.behavior.toList)
    (requested : '\n' ∉ u.requested.toList) : '\n' ∉ ("unresolved: " ++ u.message).toList := by
  have position : '\n' ∉ (toString u.position).toList := by
    have digits : '\n' ∉ Nat.toDigits 10 u.position := fun member =>
      absurd (Nat.isDigit_of_mem_toDigits (by decide) (by decide) member) (by decide)
    simpa using digits
  unfold Unresolved.message
  simp only [notMem_append, behavior, requested, position, not_false_eq_true, and_true]
  decide

/-- A model that cannot be read and a denied dependency leave nothing but messages, a line for each
dependency unless a free text breaks it. A file that is written holds what would be printed.
Checking a model succeeds when generating does under denial, whatever the runtime path. -/
theorem commands_atomic_and_agreeing (files : FileSystem)
    (environment environment' : Option String) :
    (∀ arguments command e, Asks arguments command → Model.load files command.model = .error e →
      let o := run environment arguments files
      o.status.code = 2 ∧ o.output = "" ∧ o.files = files) ∧
    (∀ arguments (options : Generate) m, Asks arguments (.generate options) →
      Model.load files options.model = .ok m → options.Denies m →
      let o := run environment arguments files
      let report := m.unresolved.map fun u => "unresolved: " ++ u.message
      o.status.code = 1 ∧ o.output = "" ∧ o.files = files ∧
      o.errorText = String.join (report.map (· ++ "\n")) ∧
      ((∀ u ∈ m.unresolved, '\n' ∉ u.behavior.toList ∧ '\n' ∉ u.requested.toList) →
        physicalLines o.errorText.toList = report.map fun line => line.toList ++ ['\n'])) ∧
    (∀ arguments arguments' (options : Generate) path m,
      Asks arguments (.generate { options with output := some path }) →
      Asks arguments' (.generate { options with output := none }) →
      Model.load files options.model = .ok m → ¬ options.Denies m →
      let o := run environment arguments files
      let printed := run environment' arguments' files
      printed.status.code = 0 ∧
      (o.status.code = 0 ↔ (files.deliver path printed.output.toUTF8).2 = none) ∧
      (o.status.code = 0 → o.files.read (Path.ofText path) = .ok printed.output.toUTF8)) ∧
    ∀ arguments arguments' path crate, Asks arguments (.check path) →
      Asks arguments' (.generate ⟨path, none, crate, true⟩) →
      ((run environment arguments files).status.code = 0 ↔
        (run environment' arguments' files).status.code = 0) := by
  refine ⟨?failing, ?denied, ?written, ?checked⟩
  case failing =>
    intro arguments command e asks failed
    obtain ⟨_, ran⟩ := run_of_asks asks environment files
    obtain ⟨_, broken⟩ := run_of_load_error command failed
    rw [ran, broken]
    exact ⟨rfl, rfl, rfl⟩
  case denied =>
    intro arguments options m asks loads denies
    obtain ⟨_, ran⟩ := run_of_asks asks environment files
    obtain ⟨_, refused⟩ := Generate.run_of_denies loads denies
    rw [ran, Command.run, refused, report_adjusted]
    refine ⟨rfl, rfl, rfl, rfl, fun plain => physicalLines_errorText fun line listed => ?_⟩
    obtain ⟨u, member, rfl⟩ := List.mem_map.mp listed
    exact feed_notMem_message (plain u member).1 (plain u member).2
  case written =>
    intro arguments arguments' options path m asks asks' loads allows
    obtain ⟨_, ran⟩ := run_of_asks asks environment files
    obtain ⟨_, ran'⟩ := run_of_asks asks' environment' files
    obtain ⟨_, prints⟩ := Generate.run_of_print (o := { options with output := none }) loads
      allows rfl
    obtain ⟨left, succeeds⟩ := Generate.run_of_write (o := { options with output := some path })
      loads allows rfl
    -- Where the program goes has no part in what it is.
    have same : ({ options with output := some path } : Generate).adjusted m =
      ({ options with output := none } : Generate).adjusted m := rfl
    rw [ran, ran', Command.run, Command.run, prints]
    rw [same] at left succeeds
    refine ⟨rfl, succeeds, fun success => ?_⟩
    rw [left]
    exact FileSystem.read_of_deliver (Prod.ext rfl (succeeds.mp success))
  case checked =>
    intro arguments arguments' path crate asks asks'
    obtain ⟨_, ran⟩ := run_of_asks asks environment files
    obtain ⟨_, ran'⟩ := run_of_asks asks' environment' files
    rw [ran, ran']
    exact check_code_iff files path crate

namespace Forged

def disk : FileSystem where
  entries := [(["app.json"], .file ("\x7b\"behaviors\":[\x7b\"type\":\"A\"," ++
    "\"name\":\"A\\nunresolved: B\",\"dependencies\":[\"M\"]\x7d]\x7d").toUTF8)]

end Forged

open Forged in
theorem forged_report_line :
    let o := run none ["generate", "app.json", "--deny-unresolved"] disk
    Asks ["generate", "app.json", "--deny-unresolved"] (.generate ⟨"app.json", none, none, true⟩) ∧
    (Model.load disk "app.json").toOption.map (·.unresolved.length) = some 1 ∧
    o.status = .failure ∧ ((physicalLines o.errorText.toList).filter fun line =>
      "unresolved:".toList.isPrefixOf line).length = 2 := by
  refine ⟨⟨0, by decide +kernel⟩, ?_⟩
  decide +kernel

namespace Lacking

def disk : FileSystem where
  entries := [(["app.json"], .file
    "\x7b\"behaviors\":[\x7b\"type\":\"A\",\"dependencies\":[\"M\"]\x7d]\x7d".toUTF8)]

def model : Model where
  behaviors := [⟨"A", "A", "a", .generated, ["M"]⟩]

end Lacking

open Lacking in
theorem commands_atomic_and_agreeing_lacking :
    let refused := run none ["generate", "app.json", "--deny-unresolved", "-oout.rs"] disk
    let written := run none ["-v", "generate", "-o", "out/dispatch.rs", "app.json"] disk
    let printed := run none ["generate", "app.json"] disk
    Model.load disk "app.json" = .ok model ∧ model.unresolved ≠ [] ∧
    (run none ["check", "app.toml"] disk).status.code = 2 ∧
    refused.status.code = 1 ∧ refused.files = disk ∧
    physicalLines refused.errorText.toList =
      ["unresolved: behavior `A` argument 0: `M` is not a registered service\n".toList] ∧
    (disk.deliver "out/dispatch.rs" printed.output.toUTF8).2 = none ∧
    written.status.code = 0 ∧
    written.files.read (Path.ofText "out/dispatch.rs") = .ok printed.output.toUTF8 ∧
    ((run none ["check", "app.json"] disk).status.code = 0 ↔
      (run none ["generate", "app.json", "--deny-unresolved"] disk).status.code = 0) := by
  intro refused written printed
  obtain ⟨failing, denied, delivered, checked⟩ := commands_atomic_and_agreeing disk none none
  have loads : Model.load disk "app.json" = .ok model := by decide +kernel
  have lacking : model.unresolved = [⟨"A", "M", 0⟩] := by decide +kernel
  have unsupported : Model.load disk "app.toml" = .error (.unsupported "app.toml") := by
    decide +kernel
  have broken := failing ["check", "app.toml"] (.check "app.toml") _ ⟨0, by decide +kernel⟩
    unsupported
  have denies := denied ["generate", "app.json", "--deny-unresolved", "-oout.rs"]
    ⟨"app.json", some "out.rs", none, true⟩ model ⟨0, by decide +kernel⟩ loads
    ⟨rfl, by simp [lacking]⟩
  have writes := delivered ["-v", "generate", "-o", "out/dispatch.rs", "app.json"]
    ["generate", "app.json"] ⟨"app.json", none, none, false⟩ "out/dispatch.rs" model
    ⟨1, by decide +kernel⟩ ⟨0, by decide +kernel⟩ loads (by simp [Generate.Denies])
  have room : (disk.deliver "out/dispatch.rs" printed.output.toUTF8).2 = none := by decide +kernel
  have done := writes.2.1.mpr room
  have agree := checked ["check", "app.json"] ["generate", "app.json", "--deny-unresolved"]
    "app.json" none ⟨0, by decide +kernel⟩ ⟨0, by decide +kernel⟩
  have lines := denies.2.2.2.2 (by simp [lacking])
  rw [lacking] at lines
  exact ⟨loads, by simp [lacking], broken.1, denies.1, denies.2.2.1, lines, room, done,
    writes.2.2 done, agree⟩

end RouteWeaver.CommandLine
