import Mathlib.Tactic
import GuardTime.Services.Scheduler
import GuardTime.Services.Gateway
import GuardTime.Services.Pairing
import GuardTime.Services.Auth

/-! # The system

A `Request` is one of the calls of the parents' app, of device agents, gateways and the DNS proxy
that are listed here, a job of the delivery queue, or a pass of the scheduler. Runs take requests
one after the other, at any times. The remaining calls that write (accounts, push tokens, notices,
categories, the setup of routers, Microsoft accounts, acknowledgements) are added in
`System.Calls`. -/

namespace GuardTime.System.Run

open GuardTime.Lib.Program GuardTime.Lib.Js GuardTime.Schema GuardTime.Server GuardTime.Prisma
open GuardTime.Services

/-- The passes of the scheduler. -/
inductive Pass where
  | checkActiveSessions | checkRulesAndSchedules | detectDnsBypass | monitorDeviceHealth
  | notifyLowProtection | enforceDeviceSchedules
deriving DecidableEq

/-- A request to the server, of one of these kinds. -/
inductive Request where
  | register (dto : Auth.RegisterDto)
  | login (dto : Auth.LoginDto)
  | refresh (token : String)
  | logout (userId : String)
  | createChild (parentId : String) (dto : Children.CreateChildDto)
  | updateChild (parentId id : String) (dto : Children.UpdateChildDto)
  | removeChild (parentId id : String)
  | createDevice (parentId : String) (dto : Devices.CreateDeviceDto)
  | updateDevice (parentId id : String) (dto : Devices.UpdateDeviceDto)
  | removeDevice (parentId id : String)
  | lockInternet (parentId id : String) (reason : Option String)
  | unlockInternet (parentId id : String)
  | upsertSchedule (parentId id : String) (dto : Protection.UpsertScheduleDto)
  | createLimit (parentId : String) (dto : Bandwidth.CreateBandwidthLimitDto)
  | updateLimit (parentId id : String) (dto : Bandwidth.UpdateBandwidthLimitDto)
  | removeLimit (parentId id : String)
  | registerDevice (parentId : String) (dto : ChildAgent.RegisterDeviceDto)
  | getCommands (deviceId : String)
  | reportStatus (deviceId : String) (activeApp : Option String)
  | createRule (parentId : String) (dto : Rules.CreateRuleDto)
  | updateRule (parentId id : String) (dto : Rules.UpdateRuleDto)
  | removeRule (parentId id : String)
  | startSession (parentId : String) (dto : Sessions.StartSessionDto)
  | pauseSession (id parentId : String)
  | resumeSession (id parentId : String)
  | extendSession (id parentId : String) (dto : Sessions.ExtendSessionDto)
  | stopSession (id parentId : String)
  | blockDevice (deviceId reason : String) (parentId : Option String)
  | unblockDevice (deviceId : String) (parentId : Option String)
  | registerGateway (parentId name : String) (endpoint : Option String) (type : GatewayType)
      (description : Option String)
  | renameGateway (parentId id : String) (name description : Patch String)
  | pairGateway (id parentId : String)
  | rotateToken (parentId id : String) (gracePeriodMs : ℤ)
  | deleteGateway (parentId id : String)
  | gateway (request : Gateways.GuardRequest) (endpoint : Gateways.Endpoint)
  | startPairing (deviceId parentId : String)
  | cancelPairing (deviceId parentId : String)
  | confirmProbe (dto : Pairing.ConfirmPairingDto)
  | checkPolicy (sourceIp domain : String)
  | processCommand (data : CommandJobData)
  | scheduler (pass : Pass)

/-- A pass. -/
def Pass.prog (env : Env) : Pass → Api Unit
  | .checkActiveSessions => Scheduler.checkActiveSessions env
  | .checkRulesAndSchedules => Scheduler.checkRulesAndSchedules env
  | .detectDnsBypass => Scheduler.detectDnsBypass env
  | .monitorDeviceHealth => Scheduler.monitorDeviceHealth env
  | .notifyLowProtection => Scheduler.notifyLowProtection env
  | .enforceDeviceSchedules => Scheduler.enforceDeviceSchedules env

/-- The program, without its answer. -/
def discard {α : Type} (p : Api α) : Api Unit := do
  let _ ← p
  pure ()

theorem run_discard_snd {α : Type} (p : Api α) (w : World) :
    ((discard p).run w).2 = (p.run w).2 := by
  rw [discard, Prog.run_bind]
  rcases p.run w with ⟨_ | _, _⟩ <;> rfl

/-- What the server does. -/
def handle (env : Env) : Request → Api Unit
  | .register dto => discard (Auth.register env dto)
  | .login dto => discard (Auth.login env dto)
  | .refresh token => discard (Auth.refresh env token)
  | .logout userId => Auth.logout userId
  | .createChild p dto => discard (Children.create p dto)
  | .updateChild p id dto => discard (Children.update p id dto)
  | .removeChild p id => Children.remove p id
  | .createDevice p dto => discard (Devices.create p dto)
  | .updateDevice p id dto => discard (Devices.update p id dto)
  | .removeDevice p id => Devices.remove p id
  | .lockInternet p id reason => discard (Devices.lockInternet p id reason)
  | .unlockInternet p id => discard (Devices.unlockInternet p id)
  | .upsertSchedule p id dto => discard (Protection.upsertSchedule p id dto)
  | .createLimit p dto => discard (Bandwidth.create p dto)
  | .updateLimit p id dto => discard (Bandwidth.update p id dto)
  | .removeLimit p id => Bandwidth.remove p id
  | .registerDevice p dto => discard (ChildAgent.registerDevice p dto)
  | .getCommands id => discard (ChildAgent.getCommands id)
  | .reportStatus id app => ChildAgent.reportStatus id app
  | .createRule p dto => discard (Rules.create p dto)
  | .updateRule p id dto => discard (Rules.update p id dto)
  | .removeRule p id => Rules.remove p id
  | .startSession p dto => discard (Sessions.start env p dto)
  | .pauseSession id p => discard (Sessions.pause id p)
  | .resumeSession id p => discard (Sessions.resume id p)
  | .extendSession id p dto => discard (Sessions.extend id p dto)
  | .stopSession id p => discard (Sessions.stop id p)
  | .blockDevice id reason p => discard (Enforcement.blockDevice id reason p)
  | .unblockDevice id p => discard (Enforcement.unblockDevice id p)
  | .registerGateway p name endpoint type description =>
    discard (Gateways.register p name endpoint type description)
  | .renameGateway p id name description => discard (Gateways.renameGateway p id name description)
  | .pairGateway id p => discard (Gateways.pair id p)
  | .rotateToken p id grace => discard (Gateways.rotateToken p id grace)
  | .deleteGateway p id => Gateways.deleteGateway p id
  | .gateway request e => discard (Gateways.guarded env request e)
  | .startPairing id p => discard (Pairing.startPairing env id p)
  | .cancelPairing id p => Pairing.cancelPairing id p
  | .confirmProbe dto => discard (Pairing.confirmProbe dto)
  | .checkPolicy ip domain => discard (DnsPolicy.checkPolicy env ip domain)
  | .processCommand data => CommandQueue.process data
  | .scheduler pass => pass.prog env

/-- A request with its time. -/
structure Step where
  time : Time
  request : Request

/-- The world after a step. -/
def exec (env : Env) (w : World) (s : Step) : World :=
  ((handle env s.request).run { w with now := s.time }).2

/-- The world after the steps. -/
def run (env : Env) (w : World) (steps : List Step) : World := steps.foldl (exec env) w

end GuardTime.System.Run
