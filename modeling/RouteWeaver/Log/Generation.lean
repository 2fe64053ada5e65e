import RouteWeaver.Document.Schema
import RouteWeaver.Log
import RouteWeaver.Program

namespace RouteWeaver

open Log (Event)

namespace Name.Request

def events (requests : List Request) : List Event :=
  (requests.filter (·.contested requests)).map fun r =>
    .disambiguated r.type (r.granted requests)

end Name.Request

namespace Schema.ModelFields

def events (f : ModelFields) : List Event :=
  (Behavior.repeatedFrom [] f.behaviors).map (fun b => .repeated b.type) ++
    Name.Request.events ((Behavior.distinct f.behaviors).map Behavior.request) ++
    Name.Request.events (f.services.map Service.request)

end Schema.ModelFields

namespace Service

/-- The services whose storage name is among `seen` or belongs to an earlier one. -/
def sharingFrom (seen : List String) : List Service → List Service
  | [] => []
  | s :: rest =>
    if s.storage ∈ seen then s :: sharingFrom seen rest else sharingFrom (s.storage :: seen) rest

end Service

namespace Model

def routeEvents (m : Model) (route : Route) (index : Nat) : List Event :=
  let active := (m.behaviorsFor route).length
  (m.unknownReferences route).map (Event.unknownBehavior route.pattern ·) ++
    if active = 0 then [] else [.composing route.pattern index active]

def events (m : Model) : List Event :=
  m.ruleTable.rules.map (fun r => Event.rule r.kind.label) ++
    (Service.sharingFrom [] m.services).map (fun s => Event.sharing s.type s.implementation) ++
    m.behaviors.flatMap (fun b =>
      (b.unresolved m.ruleTable).map fun u => Event.unresolved b.type u.requested u.position) ++
    [Event.planned m.behaviors.length m.unresolved.length] ++
    (m.routes.mapIdx fun i r => m.routeEvents r i).flatten ++
    [Event.generated m.routes.length m.behaviors.length m.services.length m.unresolved.length]

end Model
end RouteWeaver
