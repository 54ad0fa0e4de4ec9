/-
  StreamCompute.Scenario.DriverSession

  Scenarios over a driver alone. They have no instructions of their own.
-/
import StreamCompute.Scenario.Play

namespace StreamCompute.Scenario

def driverSession : Session Empty Stage where
  stage := id
  onStage f := f
  serial? m := some m.platform.serial
  perform i := nomatch i

def playDriver (spec : Spec) (steps : List (Step Empty)) : List StepReport :=
  driverSession.play { platform := { driver := { spec } }, host := {} } steps

end StreamCompute.Scenario
