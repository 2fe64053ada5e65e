import RouteWeaver.Document.Reader
import RouteWeaver.Yaml.Node
import RouteWeaver.Yaml.Scalar
import RouteWeaver.Yaml.Token.Scan

/-!
The document of a YAML text. Aliases are replaced by the nodes that they stand for, within limits
on how deep and how often that may go on; beyond them a value may be skipped but not read.
-/

namespace RouteWeaver.Yaml

def depthLimit : Nat := 128

def aliasesPerEvent : Nat := 100

/-- The nodes that aliases stand for; of equal anchors the first counts. -/
abbrev Targets := List (Nat × Node)

def withTag (label : Label) (d : Datum) : Datum :=
  match label.tag with
  | some tag => if isLocalTag tag then .tagged d else d
  | none => d

def scalarDatum (aliased : Bool) (label : Label) (style : Style) (text : String) : Datum :=
  withTag label (.scalar { scalarReading label.tag style text with isAliased := aliased })

/-- What a node is once its alias has been followed, and whether it was one. The state counts
how often aliases may still be followed. -/
def follow (targets : Targets) : Node → StateM Nat (Node × Bool)
  | .alias a => modifyGet fun
    | left + 1 => (((targets.lookup a).getD (.alias a), true), left)
    | 0 => ((.alias a, true), 0)
  | n => return (n, false)

def datum (targets : Targets) : Nat → Node → StateM Nat Datum
  | room, n => do
    match ← follow targets n with
    | (.scalar label style text, aliased) => return scalarDatum aliased label style text
    | (.alias _, _) => return .unreadable true
    | (.missing, _) => return .unreadable false
    | (n, _) =>
      match room with
      | 0 => return .unreadable n.whole
      | room + 1 =>
        match n with
        | .sequence label items closed =>
          return withTag label (.sequence (← items.mapM (datum targets room)) closed)
        | .mapping label entries closed =>
          let values ← entries.mapM fun (k, v) => do
            return (← datum targets room k, ← datum targets room v)
          return withTag label (.mapping values closed)
        | _ => return .unreadable false

def form : Form where
  recordSequences := false

def parse (text : String) : Document :=
  let es := events (tokens text.toList)
  let (root, exact) := node es.events
  let budget := aliasesPerEvent * es.events.length
  let (d, _) := (datum root.anchors.reverse depthLimit root).run budget
  ⟨d, exact && es.finished⟩

end RouteWeaver.Yaml
