import RouteWeaver.Deploy.Linking
import RouteWeaver.Model.Source

namespace RouteWeaver.Deploy

open Dispatch (Outputs Terminal)

def text : String := "# Model compiled into the switchyard-e2e crate by build.rs.
config:
  inner_attributes: false
behaviors:
  - type: crate::app::Logging
    dependencies:
      - \"Logger<crate::app::Logging>\"
      - \"dyn crate::app::Clock\"
  - type: crate::app::Timing
    state: crate::app::TimingState
    dependencies:
      - \"crate::app::Configuration\"
      - \"dyn crate::app::TimeSource\"
  - type: crate::app::Audit
    dependencies:
      - \"dyn ::switchyard_dispatch::Terminal\"
services:
  - type: dyn crate::app::Clock
    implementation: crate::app::SystemClock
  - type: dyn crate::app::TimeSource
    implementation: crate::app::SystemClock
routes:
  - pattern: \"deploy \x7benv\x7d\"
    handler: crate::app::DeployHandler
    behaviors: [Logging, Timing]
    segments:
      - \x7b kind: literal, value: deploy \x7d
      - \x7b kind: parameter, name: env \x7d
  - pattern: \"status\"
    handler: crate::app::StatusHandler
  - pattern: \"version\"
    handler: crate::app::StatusHandler
    behaviors: []
  - pattern: \"rollback\"
    behaviors: [Logging]
"

def model : Model :=
  (Source.model ⟨.yaml, text⟩).toOption.getD {}

def program? : Option Listing :=
  (Source.model ⟨.yaml, text⟩).toOption.bind built?

def routes : List String :=
  (program?.map fun e => e.patterns.map Text.unescape).getD []

/-- Runs a route with some arguments. Without a program there is nothing to run. -/
def dispatch {τ : Type} (terminal : Terminal τ Fault) (index : Nat) (arguments : List String)
    (w : World τ) : Except (Leave Fault) Unit × World τ :=
  program?.elim (.error (.undefined "dispatch"), w) fun e =>
    e.dispatch (host e terminal arguments) index w

def run (index : Nat) (arguments : List String) : Except (Leave Fault) Unit × List String :=
  let ended := dispatch (Terminal.standard Fault) index arguments ⟨[], {}⟩
  (ended.1, ended.2.journal)

end RouteWeaver.Deploy
