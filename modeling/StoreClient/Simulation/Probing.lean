import StoreClient.Probe
import StoreClient.Simulation.Deployment

/-!
# Probes in a network

A probe run against simulated servers. Nobody knows the time there.
-/

namespace StoreClient.Simulation

namespace Deployment

/-- Runs over a deployment, as long as no call waits for ever. -/
abbrev Run := StateT Deployment Option

/-- Answers the requests of a probe. -/
def runner : Probe.Runner Run where
  execute request := fun d =>
    let (d, answer) := d.execute request
    answer.map (·, d)
  clock := pure none

/-- Replaces the client by one for a configuration. -/
def connect (config : Config) : Run (Except Fault (Probe.Runner Run)) := fun d =>
  (ofConfig d.site config).map fun
    | .error fault => (.error fault, d)
    | .ok d => (.ok runner, d)

end Deployment

/-- Runs the probe that the arguments ask for at a site: its report and what is left, unless it
waits for ever. -/
def probe (s : Site) (args : List String) : Option (Probe.Report × Deployment) :=
  Probe.runArgs args Deployment.connect (Deployment.hostless s)

end StoreClient.Simulation
