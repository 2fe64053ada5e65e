import RouteWeaver.Config
import RouteWeaver.Model.Behavior
import RouteWeaver.Model.Service
import RouteWeaver.Model.Route

namespace RouteWeaver

structure Model where
  config : Config := {}
  behaviors : List Behavior := []
  services : List Service := []
  routes : List Route := []
deriving DecidableEq, Repr, Inhabited

namespace Model

/-- One behavior a type, and identifiers that tell types apart. -/
def ofDefinitions (config : Config) (behaviors : List Behavior) (services : List Service)
    (routes : List Route) : Model where
  config
  behaviors := Behavior.withGrantedIdentifiers (Behavior.distinct behaviors)
  services := Service.withGrantedStorage services
  routes

def behaviorsFor (m : Model) (route : Route) : List Behavior :=
  match route.behaviors with
  | none => m.behaviors
  | some references => m.behaviors.filter fun b => references.any b.answersTo

def unknownReferences (m : Model) (route : Route) : List String :=
  (route.behaviors.getD []).filter fun r => !m.behaviors.any (·.answersTo r)

end Model
end RouteWeaver
