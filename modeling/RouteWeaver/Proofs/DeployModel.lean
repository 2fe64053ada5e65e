import RouteWeaver.Deploy
import RouteWeaver.Proofs.RouteTable

namespace RouteWeaver

theorem Text.toList_of_chars {P : List Char → Prop} {chars : List Char} (holds : P chars) :
    P (String.ofList chars).toList := by
  rwa [String.toList_ofList]

namespace Yaml

def parseChars (chars : List Char) : Document :=
  let es := events (tokens chars)
  let (root, exact) := node es.events
  let budget := aliasesPerEvent * es.events.length
  let (d, _) := (datum root.anchors.reverse depthLimit root).run budget
  ⟨d, exact && es.finished⟩

theorem parse_eq (text : String) : parse text = parseChars text.toList :=
  rfl

end Yaml

namespace Deploy

open Dispatch (Act Terminal)

def described : Model where
  config := { innerAttributes := false }
  behaviors := [
    ⟨"crate::app::Logging", "Logging", "logging", .generated,
      ["Logger<crate::app::Logging>", "dyn crate::app::Clock"]⟩,
    ⟨"crate::app::Timing", "Timing", "timing", .custom "crate::app::TimingState",
      ["crate::app::Configuration", "dyn crate::app::TimeSource"]⟩,
    ⟨"crate::app::Audit", "Audit", "audit", .generated, ["dyn ::switchyard_dispatch::Terminal"]⟩]
  services := [
    ⟨"dyn crate::app::Clock", "crate::app::SystemClock", "system_clock"⟩,
    ⟨"dyn crate::app::TimeSource", "crate::app::SystemClock", "system_clock"⟩]
  routes := [
    ⟨"deploy \x7benv\x7d", [.literal "deploy", .parameter "env" false],
      some "crate::app::DeployHandler", some ["Logging", "Timing"]⟩,
    ⟨"status", [], some "crate::app::StatusHandler", none⟩,
    ⟨"version", [], some "crate::app::StatusHandler", some []⟩,
    ⟨"rollback", [], none, some ["Logging"]⟩]

def describedFields : Schema.ModelFields :=
  ⟨described.config, described.behaviors, described.services, described.routes⟩

-- The literal is opened into its characters here, so that the reader is run on a list of them.
set_option maxRecDepth 10000 in
theorem toOption_fields_text :
    (Schema.modelFields Yaml.form (Yaml.parseChars text.toList)).toOption =
      some describedFields := by
  unfold text
  exact Text.toList_of_chars
    (P := fun chars => (Schema.modelFields Yaml.form (Yaml.parseChars chars)).toOption =
      some describedFields)
    (by decide +kernel)

theorem fields_text : Source.fields ⟨.yaml, text⟩ = .ok describedFields := by
  have read := toOption_fields_text
  rw [← Yaml.parse_eq] at read
  rw [Source.fields, Format.form, Format.parse]
  cases reading : Schema.modelFields Yaml.form (Yaml.parse text) with
  | error problem =>
    rw [reading] at read
    cases read
  | ok fields =>
    rw [reading] at read
    cases read
    rfl

theorem model_describedFields : describedFields.model = described := by
  decide +kernel

theorem model_text : Source.model ⟨.yaml, text⟩ = .ok described := by
  rw [Source.model, fields_text, ← model_describedFields]
  rfl

theorem model_eq : model = described :=
  congrArg (fun read => read.toOption.getD {}) model_text

def holders : List Holder := [
  ⟨"`Logging` behavior, constructed on first access.", "logging", "crate::app::Logging",
    .new "crate::app::Logging"
      ["::switchyard_dispatch::NullLogger::<crate::app::Logging>::new()",
        "services::system_clock()"]⟩,
  ⟨"`Timing` behavior, constructed on first access.", "timing", "crate::app::Timing",
    .new "crate::app::Timing" ["crate::configuration()", "services::system_clock()"]⟩,
  ⟨"`Audit` behavior, constructed on first access.", "audit", "crate::app::Audit",
    .new "crate::app::Audit" ["crate::terminal()"]⟩]

def listing : Listing :=
  { described.program.listing with behaviors := holders }

theorem listing_described : described.program.listing = listing := by
  have resolved : described.program.listing.behaviors = holders := by decide +kernel
  rw [listing, ← resolved]

theorem isComplete_described : described.generate.isComplete := by
  decide +kernel

theorem links_listing : links listing := by
  decide +kernel

theorem built?_described : built? described = some listing := by
  have runtime : described.config.runtime = "::switchyard_dispatch" := by decide +kernel
  rw [built?, listing_described, isComplete_described, runtime, links_listing]
  rfl

theorem listing_model : model.program.listing = listing := by
  rw [model_eq, listing_described]

theorem program?_eq : program? = some listing := by
  have read : (Source.model ⟨.yaml, text⟩).toOption = some described :=
    congrArg Except.toOption model_text
  rw [program?, read, Option.bind_some, built?_described]

-- From here on nothing reads the text again.
attribute [local irreducible] model program?

section Linking

variable {τ : Type} (terminal : Terminal τ Fault) (arguments : List String)

theorem instanceAt?_listing : ∀ b ∈ described.behaviors,
    (instanceAt? listing b.accessorPath).isSome := by
  decide +kernel

theorem hooks?_isSome {b : Behavior} (declared : b ∈ model.behaviors) :
    ((host listing terminal arguments).hooks? b.accessorPath).isSome := by
  rw [model_eq] at declared
  simpa [host] using instanceAt?_listing b declared

theorem act?_isSome {route : Route} (declared : route ∈ model.routes) :
    ((host listing terminal arguments).act? route.action).isSome := by
  rw [model_eq] at declared
  simp only [described, List.mem_cons, List.not_mem_nil, or_false] at declared
  rcases declared with rfl | rfl | rfl | rfl <;> rfl

theorem identifiers_nodup (route : Route) : ((model.behaviorsFor route).map (·.identifier)).Nodup := by
  have all : (model.behaviors.map (·.identifier)).Nodup := by
    rw [model_eq]
    decide
  exact all.sublist ((model.behaviorsFor_sublist route).map _)

end Linking

def World.noted {τ : Type} (w : World τ) (entry : String) : World τ :=
  { w with journal := w.journal ++ [entry] }

theorem World.journal_noted {τ : Type} (w : World τ) (entries : List String) :
    (entries.foldl noted w).journal = w.journal ++ entries := by
  induction entries generalizing w with
  | nil => simp
  | cons entry rest ih => simp [ih, noted]

section Calls

variable {τ : Type} (terminal : Terminal τ Fault) (arguments : List String) (w : World τ)

def target : String :=
  arguments.head?.getD "staging"

variable {arguments}

theorem deploy_near (near : target arguments ≠ "moon") :
    (deploy arguments : Act (World τ) Fault Unit) =
      record ("handler(deploy " ++ target arguments ++ ")") := by
  unfold target at near
  simp [deploy, target, near]

theorem deploy_far (far : target arguments = "moon") :
    (deploy arguments : Act (World τ) Fault Unit) =
      (record "handler(deploy moon)" >>= fun _ => throw (.unreachable "moon")) := by
  unfold target at far
  simp [deploy, far]

theorem dispatch_eq (index : Nat) : dispatch terminal index arguments w =
    listing.dispatch (host listing terminal arguments) index w := by
  rw [dispatch, program?_eq, Option.elim_some]

theorem dispatch_near (near : target arguments ≠ "moon") :
    dispatch terminal 0 arguments w =
      (.ok (), ["before(Logging) deploy \x7benv\x7d", "before(Timing) staging",
        "handler(deploy " ++ target arguments ++ ")", "after(Timing) timed=true",
        "after(Logging)"].foldl World.noted w) := by
  rw [dispatch_eq, host]
  unfold handlerOf?
  rw [deploy_near near]
  rfl

theorem dispatch_far (far : target arguments = "moon") :
    dispatch terminal 0 arguments w =
      (.error (.fault (.unreachable "moon")), ["before(Logging) deploy \x7benv\x7d",
        "before(Timing) staging", "handler(deploy moon)",
        "error(Timing, deploy target unreachable: moon)",
        "error(Logging, deploy target unreachable: moon)"].foldl World.noted w) := by
  rw [dispatch_eq, host]
  unfold handlerOf?
  rw [deploy_far far]
  rfl

variable (arguments)

theorem dispatch_status : dispatch terminal 1 arguments w =
    (.ok (), ["before(Logging) status", "before(Timing) staging",
      "before(Audit) crate::app::StatusHandler", "handler(status)", "after(Audit)",
      "after(Timing) timed=true", "after(Logging)"].foldl World.noted w) := by
  rw [dispatch_eq]
  rfl

theorem dispatch_version : dispatch terminal 2 arguments w =
    (.ok (), ["handler(status)"].foldl World.noted w) := by
  rw [dispatch_eq]
  rfl

theorem dispatch_rollback : dispatch terminal 3 arguments w =
    (.error (.fault (.dispatch (.missingHandler "rollback"))),
      ["before(Logging) rollback",
        "error(Logging, no handler registered for route `rollback`)"].foldl World.noted w) := by
  rw [dispatch_eq]
  rfl

theorem dispatch_unknown {index : Nat} (beyond : 4 ≤ index) :
    dispatch terminal index arguments w =
      (.error (.fault (.dispatch (.unknownRoute index))), w) := by
  have none : listing.target? index = none := by
    rw [← listing_described, Model.target?_listing, List.getElem?_eq_none beyond, Option.map_none]
  rw [dispatch_eq, Listing.dispatch, none]
  rfl

end Calls

end Deploy
end RouteWeaver
