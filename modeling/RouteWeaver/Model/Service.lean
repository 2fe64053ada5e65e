import RouteWeaver.Name

namespace RouteWeaver

structure Service where
  /-- The type that dependencies ask for. -/
  type : String
  /-- The type that is stored. -/
  implementation : String
  storage : String
deriving DecidableEq, Repr, Inhabited

namespace Service

def ofTypes (type implementation : String) : Service where
  type
  implementation
  storage := Name.identifier implementation

def Fresh (s : Service) : Prop :=
  s.storage = Name.identifier s.implementation

def request (s : Service) : Name.Request :=
  ⟨s.implementation, s.storage⟩

def withGrantedStorage (services : List Service) : List Service :=
  services.map fun s => { s with storage := s.request.granted (services.map request) }

end Service
end RouteWeaver
