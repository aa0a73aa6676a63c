/-
The resource-manager dependencies of `IPACM_Config`
(`ipacm/src/IPACM_Config.cpp`): `AddRmDepend` and `DelRmDepend`, and the
`IPA_IOC_RM_ADD_DEPENDENCY` and `IPA_IOC_RM_DEL_DEPENDENCY` calls they make, all
of which succeed.

An entry sees its own flags only, so a call is what it does to each entry in
turn. `setUpBypass` is ghost: the value `rx_bypass_ipa` had when the entry was
last set up, which the code does not keep.
-/
import Mathlib.Data.BitVec
import HiaeCommon.Lib.Replay

namespace HiaeCommon

/-- `ipa_rm_resource_name`, as far as the table names them. -/
inductive RmResourceName
  | q6Prod | usbProd | hsicProd | wlanProd | oduAdaptProd
  | q6Cons | usbCons | wlanCons | oduAdaptCons
  | other (n : Nat)
  deriving DecidableEq, Repr

/-- `ipa_ioc_rm_dependency`: `resource_name` depends on `depends_on_name`. -/
abbrev RmDependency := RmResourceName × RmResourceName

/-- `ipa_rm_client`. -/
structure RmClient where
  producerRm1 : RmResourceName
  consumerRm1 : RmResourceName
  producerRm2 : RmResourceName
  consumerRm2 : RmResourceName
  producer1Up : Bool := false
  consumer1Up : Bool := false
  rmSet : Bool := false
  rxBypassIpa : Bool := false
  setUpBypass : Bool := false
  deriving DecidableEq, Repr

namespace RmClient

/-- The dependency `rx_bypass_ipa` leaves out. -/
def dep1 (e : RmClient) : RmDependency := (e.producerRm1, e.consumerRm1)

/-- The dependency of every entry that is set up. -/
def dep2 (e : RmClient) : RmDependency := (e.producerRm2, e.consumerRm2)

/-- The pair of dependencies an entry is set up or taken down with. -/
def deps (e : RmClient) : List RmDependency := if e.rxBypassIpa then [e.dep2] else [e.dep1, e.dep2]

/-- The set-up branch: both ends are up. -/
def setUp (e : RmClient) : RmClient × List (Lib.Call RmDependency) :=
  if e.producer1Up && e.consumer1Up && !e.rmSet then
    ({ e with rmSet := true, setUpBypass := e.rxBypassIpa }, e.deps.map .create)
  else (e, [])

/-- The take-down branch. -/
def takeDown (e : RmClient) : RmClient × List (Lib.Call RmDependency) :=
  if e.rmSet then ({ e with rmSet := false }, e.deps.map .delete) else (e, [])

/-- What `AddRmDepend` does to an entry. -/
def addRm (rm1 : RmResourceName) (rxBypassIpa : Bool) (e : RmClient) : RmClient × List (Lib.Call RmDependency) :=
  let (e, l) := if rm1 = e.producerRm1 then setUp { e with producer1Up := true, rxBypassIpa } else (e, [])
  let (e, m) := if rm1 = e.consumerRm1 then setUp { e with consumer1Up := true } else (e, [])
  (e, l ++ m)

/-- What `DelRmDepend` does to an entry. -/
def delRm (rm1 : RmResourceName) (ipaRmA2Check : BitVec 32) (e : RmClient) : RmClient × List (Lib.Call RmDependency) :=
  let (e, l) :=
    if rm1 = e.producerRm1 then
      let (e, l) := e.takeDown
      ({ e with producer1Up := false, rxBypassIpa := false }, l)
    else (e, [])
  if rm1 = e.consumerRm1 then
    if e.consumerRm1 = .q6Cons ∧ ipaRmA2Check = 1 then (e, l)
    else
      let (e, m) := e.takeDown
      ({ e with consumer1Up := false }, l ++ m)
  else (e, l)

end RmClient

/-- The fields of `IPACM_Config` the two calls use, and the kernel calls made so far. -/
structure RmConfig where
  ipaRmTbl : List RmClient
  ipaRmA2Check : BitVec 32
  ioctls : List (Lib.Call RmDependency)
  deriving DecidableEq, Repr

/-- The table `Init` fills in. -/
def rmTable : List RmClient := [
  ⟨.wlanProd, .q6Cons, .q6Prod, .wlanCons, false, false, false, false, false⟩,
  ⟨.usbProd, .q6Cons, .q6Prod, .usbCons, false, false, false, false, false⟩,
  ⟨.wlanProd, .usbCons, .usbProd, .wlanCons, false, false, false, false, false⟩,
  ⟨.oduAdaptProd, .q6Cons, .q6Prod, .oduAdaptCons, false, false, false, false, false⟩,
  ⟨.wlanProd, .oduAdaptCons, .oduAdaptProd, .wlanCons, false, false, false, false, false⟩,
  ⟨.oduAdaptProd, .usbCons, .usbProd, .oduAdaptCons, false, false, false, false, false⟩]

/-- A call of one of the two functions. -/
inductive RmCall
  | addRmDepend (rm1 : RmResourceName) (rxBypassIpa : Bool)
  | delRmDepend (rm1 : RmResourceName)
  deriving DecidableEq, Repr

namespace RmConfig

def init : RmConfig := ⟨rmTable, 0, []⟩

/-- The loop over the table. -/
def forEach (s : RmConfig) (f : RmClient → RmClient × List (Lib.Call RmDependency)) : RmConfig :=
  { s with ipaRmTbl := s.ipaRmTbl.map fun e => (f e).1, ioctls := s.ioctls ++ s.ipaRmTbl.flatMap fun e => (f e).2 }

def addRmDepend (s : RmConfig) (rm1 : RmResourceName) (rxBypassIpa : Bool) : RmConfig :=
  let s := if rm1 = .q6Cons then { s with ipaRmA2Check := s.ipaRmA2Check + 1 } else s
  s.forEach (RmClient.addRm rm1 rxBypassIpa)

def delRmDepend (s : RmConfig) (rm1 : RmResourceName) : RmConfig :=
  let s := if rm1 = .q6Cons then { s with ipaRmA2Check := s.ipaRmA2Check - 1 } else s
  s.forEach (RmClient.delRm rm1 s.ipaRmA2Check)

def step (s : RmConfig) : RmCall → RmConfig
  | .addRmDepend rm1 rxBypassIpa => s.addRmDepend rm1 rxBypassIpa
  | .delRmDepend rm1 => s.delRmDepend rm1

def run (s : RmConfig) (calls : List RmCall) : RmConfig := calls.foldl step s

end RmConfig
end HiaeCommon
