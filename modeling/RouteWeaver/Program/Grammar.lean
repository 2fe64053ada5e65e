import RouteWeaver.Program.Listing

/-!
The grammar of emitted programs: which lines stand for which statements, holders, functions and
tables. Lines are compared without the blanks before them, so that nothing depends on how deep a
block stands; a text of more than one line stands for its lines.
-/

namespace RouteWeaver

namespace Text

/-- A line without the blanks before it, unless there is nothing else. -/
def bareLine (line : List Char) : List String :=
  match line.dropWhile (· = ' ') with
  | [] => []
  | c :: cs => [String.ofList (c :: cs)]

/-- The lines of texts without the blanks before them. Blank lines are left out. -/
def bareLines (texts : List String) : List String :=
  texts.flatMap fun text => (pieces '\n' text.toList).flatMap bareLine

end Text

open Text (bareLines)

inductive SpellsAll {α : Type} (spells : α → List String → Prop) : List α → List String → Prop where
  | nil : SpellsAll spells [] []
  | cons {x : α} {xs : List α} {lines later : List String} (first : spells x lines)
      (others : SpellsAll spells xs later) : SpellsAll spells (x :: xs) (lines ++ later)

inductive SpellsStep (c : Config) : Step → List String → Prop where
  | before (accessor owner : String) : SpellsStep c (.hook .before accessor owner)
      (bareLines [c.runtime ++ "::Behavior::before(" ++ accessor ++ ", &mut " ++ owner ++
        ").await?;"])
  | after (accessor owner : String) : SpellsStep c (.hook .after accessor owner)
      (bareLines [c.runtime ++ "::Behavior::after(" ++ accessor ++ ", &mut " ++ owner ++
        ").await?;"])
  | onError (accessor owner : String) : SpellsStep c (.hook .error accessor owner)
      (bareLines [c.runtime ++ "::Behavior::on_error(" ++ accessor ++ ", &mut " ++ owner ++
        ", &__fault).await?;"])
  | handle (path : String) :
      SpellsStep c (.action (.handle path)) (bareLines [path ++ "::handle(args).await?;"])
  | missingHandler (pattern : String) : SpellsStep c (.action (.missingHandler pattern))
      (bareLines [c.runtime ++ "::missing_handler(\"" ++ pattern ++ "\")?;"])
  | lines (text : List String) : SpellsStep c (.action (.lines text)) (bareLines text)

inductive SpellsStatement (c : Config) : Statement → List String → Prop where
  | makeState (o : StateObject) : SpellsStatement c (.makeState o)
      (bareLines ["let mut " ++ o.owner ++ " = <" ++ o.type ++ " as " ++ c.runtime ++
          "::BehaviorState>::from_context(",
        c.runtime ++ "::BehaviorContext::new(",
        "\"" ++ o.command ++ "\",",
        "\"" ++ o.handler ++ "\",",
        c.runtime ++ "::CancellationToken::none(),",
        "),",
        ");"])
  | perform {step : Step} {lines : List String} (spelled : SpellsStep c step lines) :
      SpellsStatement c (.perform step) lines
  | guard {steps : List Step} {lines : List String} (outcome : String)
      (spelled : SpellsAll (SpellsStep c) steps lines) : SpellsStatement c (.guard outcome steps)
        (bareLines ["let " ++ outcome ++ " = async \x7b"] ++ lines ++
          bareLines ["::core::result::Result::<(), " ++ c.runtime ++ "::Fault>::Ok(())", "\x7d",
            ".await;"])
  | recover {steps : List Step} {lines : List String} (outcome : String)
      (spelled : SpellsAll (SpellsStep c) steps lines) : SpellsStatement c (.recover outcome steps)
        (bareLines ["if let ::core::result::Result::Err(__fault) = " ++ outcome ++ " \x7b"] ++
          lines ++ bareLines ["return ::core::result::Result::Err(__fault);", "\x7d"])
  | succeed : SpellsStatement c .succeed (bareLines ["::core::result::Result::Ok(())"])

inductive SpellsInstance (h : Holder) : Construction → List String → Prop where
  | default : SpellsInstance h .default
      (bareLines [h.staticName ++ ".get_or_init(<" ++ h.type ++
        " as ::core::default::Default>::default)"])
  | new (type : String) : SpellsInstance h (.new type [])
      (bareLines [h.staticName ++ ".get_or_init(|| " ++ Name.expressionPath type ++ "::new())"])
  | newWith (type argument : String) (others : List String) :
      SpellsInstance h (.new type (argument :: others))
        (bareLines [h.staticName ++ ".get_or_init(|| \x7b", Name.expressionPath type ++ "::new("] ++
          bareLines ((argument :: others).map (· ++ ",")) ++ bareLines [")", "\x7d)"])

inductive SpellsHolder : Holder → List String → Prop where
  | mk {h : Holder} {lines : List String} (made : SpellsInstance h h.construction lines) :
      SpellsHolder h
        (bareLines ["/// " ++ h.doc,
          "static " ++ h.staticName ++ ": ::std::sync::OnceLock<" ++ h.type ++
            "> = ::std::sync::OnceLock::new();",
          "pub(crate) fn " ++ h.accessor ++ "() -> &'static " ++ h.type ++ " \x7b"] ++ lines ++
        bareLines ["\x7d"])

inductive SpellsAlias : StateAlias → List String → Prop where
  | mk (a : StateAlias) : SpellsAlias a
      (bareLines ["/// Per-invocation state of `" ++ a.behavior ++ "`.",
        "pub(crate) type " ++ a.name ++ " = " ++ a.target ++ ";"])

inductive SpellsPattern : String → List String → Prop where
  | mk (pattern : String) : SpellsPattern pattern (bareLines ["\"" ++ pattern ++ "\","])

inductive SpellsFunction (c : Config) : NamedFunction → List String → Prop where
  | mk {f : NamedFunction} {lines : List String}
      (spelled : SpellsAll (SpellsStatement c) f.body lines) : SpellsFunction c f
        (bareLines (f.doc.map ("///" ++ ·)) ++
          bareLines ["pub(crate) async fn " ++ f.name ++ "(args: &[::std::string::String]) -> " ++
            c.runtime ++ "::Result<()> \x7b"] ++ lines ++
          bareLines ["\x7d"])

inductive SpellsArm : Nat × String → List String → Prop where
  | mk (index : Nat) (function : String) : SpellsArm (index, function)
      (bareLines [toString index ++ " => " ++ function ++ "(args).await,"])

/-- The lines of a whole program. The last arm of its dispatch function is that of the indices
that have no arm of their own. -/
inductive SpellsListing (c : Config) : Listing → List String → Prop where
  | mk {e : Listing} {services behaviors aliases patterns functions arms : List String}
      (services_spelled : SpellsAll SpellsHolder e.services services)
      (behaviors_spelled : SpellsAll SpellsHolder e.behaviors behaviors)
      (aliases_spelled : SpellsAll SpellsAlias e.aliases aliases)
      (patterns_spelled : SpellsAll SpellsPattern e.patterns patterns)
      (functions_spelled : SpellsAll (SpellsFunction c) e.functions functions)
      (arms_spelled : SpellsAll SpellsArm e.arms arms) : SpellsListing c e
        (bareLines ["// @generated by switchyard-gen 0.4.0. Do not edit.", Program.header c,
            "/// Registered services, constructed on first access.",
            "pub(crate) mod services \x7b"] ++
          services ++
          bareLines ["\x7d",
            "/// Registered behaviors, constructed on first access, and their state types.",
            "pub(crate) mod behaviors \x7b",
            "use super::services;"] ++
          behaviors ++ aliases ++
          bareLines ["\x7d",
            "/// Route patterns, indexed like [`dispatch`].",
            "pub(crate) const ROUTES: &[&str] = &["] ++
          patterns ++ bareLines ["];"] ++ functions ++
          bareLines ["/// Runs the pipeline of the route at `index`.",
            "pub(crate) async fn dispatch(index: usize, args: &[::std::string::String]) -> " ++
              c.runtime ++ "::Result<()> \x7b",
            "match index \x7b"] ++
          arms ++
          bareLines ["_ => ::core::result::Result::Err(" ++ c.runtime ++ "::unknown_route(index)),",
            "\x7d",
            "\x7d"])

/-- The text is one of the program that the listing is of. -/
def Listing.Spelled (c : Config) (e : Listing) (text : String) : Prop :=
  SpellsListing c e (bareLines [text])

end RouteWeaver
