import RealtimePlatform.Backend.KeyManagement

/-!
# Concurrent requests of the portal

A request reads or writes one store at a time and may be overtaken between two of its steps. `Stage` says
what it does next; `succeeds` says whether the storage, hashing or signing of that step does.
-/

namespace RealtimePlatform.Backend
open Library

structure TenantUser where
  id : Uuid
  tenantId : TenantId
  email : String
  passwordHash : String
  deriving DecidableEq

/-- The stores that the requests share. -/
structure PortalStores where
  plane : KeyPlane
  users : List TenantUser

namespace PortalStores

def emailExists (email : String) (stores : PortalStores) : Bool :=
  stores.users.any (·.email = email)

-- The id is the primary key of the table and the e-mail is declared UNIQUE.
def createUser (user : TenantUser) (stores : PortalStores) : Except PortalError PortalStores :=
  if stores.users.any fun row => row.id = user.id || row.email = user.email then .error .database
  else .ok { stores with users := stores.users ++ [user] }

def registerTenant (tenantId : TenantId) (secret : String) (stores : PortalStores) : PortalStores :=
  { stores with plane := stores.plane.registerTenant tenantId secret }

def upsertSecret (tenantId : TenantId) (secret : String) (stores : PortalStores) : PortalStores :=
  { stores with plane := { stores.plane with db := stores.plane.db.upsert tenantId secret } }

def createKey (key : ApiKey) (stores : PortalStores) : Except PortalError PortalStores :=
  (stores.plane.db.create key).map fun db => { stores with plane := { stores.plane with db := db } }

def addExtraKey (key : ApiKey) (stores : PortalStores) : PortalStores :=
  { stores with plane := { stores.plane with
      tokenService := stores.plane.tokenService.addExtraKey key.tenantId key.publicKey (utf8 key.secret) } }

def revokeKey (tenantId : TenantId) (keyId : Uuid) (stores : PortalStores) : Bool × PortalStores :=
  let (revoked, db) := stores.plane.db.revoke tenantId keyId
  (revoked, { stores with plane := { stores.plane with db := db } })

def revokeExtraKey (tenantId : TenantId) (publicKey : String) (stores : PortalStores) : PortalStores :=
  { stores with plane := { stores.plane with
      tokenService := (stores.plane.tokenService.revokeExtraKey tenantId publicKey).2 } }

end PortalStores

/-- A signup with the values that are drawn for it: ids, secret and salted hash. -/
structure Signup where
  email : String
  tenantId : TenantId
  secret : String
  userId : Uuid
  passwordHash : String
  deriving DecidableEq

def Signup.user (signup : Signup) : TenantUser :=
  ⟨signup.userId, signup.tenantId, signup.email, signup.passwordHash⟩

inductive PortalRequest where
  | signup (signup : Signup)
  | rotateMySecret (tenantId : TenantId) (secret : String)
  | generateApiKey (id : Uuid) (tenantId : TenantId) (name publicKey secret : String)
  | revokeApiKey (tenantId : TenantId) (keyId : Uuid)

/-- The next step of a request. A signup registers and stores its secret as a rotation does, and goes on. -/
inductive Stage where
  | emailExists (signup : Signup)
  | registerTenant (tenantId : TenantId) (secret : String) (signup : Option Signup)
  | upsertSecret (tenantId : TenantId) (secret : String) (signup : Option Signup)
  | hashPassword (signup : Signup)
  | createUser (signup : Signup)
  | issueSession
  | createKey (key : ApiKey)
  | addExtraKey (key : ApiKey)
  | findKey (tenantId : TenantId) (keyId : Uuid)
  | revokeKey (tenantId : TenantId) (keyId : Uuid) (publicKey : String)
  | revokeExtraKey (tenantId : TenantId) (publicKey : String)
  | finished (result : Except PortalError Unit)

def PortalRequest.begin : PortalRequest → Stage
  | .signup account => .emailExists account
  | .rotateMySecret tenantId secret => .registerTenant tenantId secret none
  | .generateApiKey id tenantId name publicKey secret =>
    let trimmed := String.ofList (trim name.toList)
    if trimmed.isEmpty then .finished (.error .apiKeyNameRequired)
    else .createKey ⟨id, tenantId, trimmed, publicKey, secret, true⟩
  | .revokeApiKey tenantId keyId => .findKey tenantId keyId

namespace Stage

def proceed (stores : PortalStores) : Stage → Stage × PortalStores
  | emailExists signup =>
    if stores.emailExists signup.email then (.finished (.error .emailAlreadyRegistered), stores)
    else (.registerTenant signup.tenantId signup.secret (some signup), stores)
  | registerTenant tenantId secret signup =>
    (.upsertSecret tenantId secret signup, stores.registerTenant tenantId secret)
  | upsertSecret tenantId secret signup =>
    (signup.elim (.finished (.ok ())) hashPassword, stores.upsertSecret tenantId secret)
  | hashPassword signup => (.createUser signup, stores)
  | createUser signup =>
    match stores.createUser signup.user with
    | .error err => (.finished (.error err), stores)
    | .ok created => (.issueSession, created)
  | issueSession => (.finished (.ok ()), stores)
  | createKey key =>
    match stores.createKey key with
    | .error err => (.finished (.error err), stores)
    | .ok created => (.addExtraKey key, created)
  | addExtraKey key => (.finished (.ok ()), stores.addExtraKey key)
  | findKey tenantId keyId =>
    match stores.plane.db.findById tenantId keyId with
    | none => (.finished (.error .apiKeyNotFound), stores)
    | some key => (.revokeKey tenantId keyId key.publicKey, stores)
  | revokeKey tenantId keyId publicKey =>
    let (revoked, marked) := stores.revokeKey tenantId keyId
    if !revoked then (.finished (.error .apiKeyNotFound), marked)
    else (.revokeExtraKey tenantId publicKey, marked)
  | revokeExtraKey tenantId publicKey => (.finished (.ok ()), stores.revokeExtraKey tenantId publicKey)
  | finished result => (.finished result, stores)

def failure : Stage → Option PortalError
  | emailExists _ | upsertSecret _ _ _ | createUser _ | createKey _ | findKey _ _ | revokeKey _ _ _ =>
    some .database
  | hashPassword _ | issueSession => some .invalidCredentials
  | registerTenant _ _ _ | addExtraKey _ | revokeExtraKey _ _ | finished _ => none

def advance (succeeds : Bool) (stores : PortalStores) (stage : Stage) : Option (Stage × PortalStores) :=
  match stage with
  | finished _ => none
  | _ => if succeeds then some (stage.proceed stores)
    else stage.failure.map fun err => (.finished (.error err), stores)

end Stage

structure PortalServer where
  stores : PortalStores
  stages : Nat → Option Stage

inductive PortalEvent where
  | start (request : Nat) (asked : PortalRequest)
  | run (request : Nat) (succeeds : Bool)

namespace PortalServer

def settle (request : Nat) (stage : Stage) (stores : PortalStores) (server : PortalServer) : PortalServer where
  stores := stores
  stages := Function.update server.stages request (some stage)

@[simp] theorem stores_settle (request : Nat) (stage : Stage) (stores : PortalStores)
    (server : PortalServer) : (server.settle request stage stores).stores = stores := rfl

theorem stages_settle (request asked : Nat) (stage : Stage) (stores : PortalStores) (server : PortalServer) :
    (server.settle request stage stores).stages asked =
      if asked = request then some stage else server.stages asked :=
  Function.update_apply _ _ _ _

def step : Step PortalServer PortalEvent
  | server, .start request asked =>
    if (server.stages request).isSome then none
    else some (server.settle request asked.begin server.stores)
  | server, .run request succeeds =>
    (server.stages request).bind fun stage => (stage.advance succeeds server.stores).map fun moved =>
      server.settle request moved.1 moved.2

end PortalServer

/-- The steps that a storage, hashing or signing error can stop. -/
inductive FaultPoint where
  | emailExists | upsertSecret | hashPassword | createUser | issueSession
  deriving DecidableEq

namespace PortalStores

def rotateMySecret (fault : Option FaultPoint) (tenantId : TenantId) (secret : String)
    (stores : PortalStores) : Except PortalError Unit × PortalStores :=
  let stores := stores.registerTenant tenantId secret
  if fault = some .upsertSecret then (.error .database, stores)
  else (.ok (), stores.upsertSecret tenantId secret)

def signupTenant (fault : Option FaultPoint) (signup : Signup) (stores : PortalStores) :
    Except PortalError Unit × PortalStores :=
  if fault = some .emailExists then (.error .database, stores)
  else if stores.emailExists signup.email then (.error .emailAlreadyRegistered, stores)
  else
    let stores := stores.registerTenant signup.tenantId signup.secret
    if fault = some .upsertSecret then (.error .database, stores)
    else
      let stores := stores.upsertSecret signup.tenantId signup.secret
      if fault = some .hashPassword then (.error .invalidCredentials, stores)
      else if fault = some .createUser then (.error .database, stores)
      else match stores.createUser signup.user with
        | .error err => (.error err, stores)
        | .ok stores =>
          if fault = some .issueSession then (.error .invalidCredentials, stores) else (.ok (), stores)

end PortalStores

namespace PortalServer

/-- The stores before any request is open. -/
def idle (stores : PortalStores) : PortalServer := ⟨stores, fun _ => none⟩

def RunsAlone (asked : PortalRequest) (stores : PortalStores)
    (result : Except PortalError Unit × PortalStores) : Prop :=
  ∃ outcomes : List Bool, ∃ server, step.run (idle stores) (.start 0 asked :: outcomes.map (.run 0)) =
    some server ∧ server.stages 0 = some (.finished result.1) ∧ server.stores = result.2

def follow : List Bool → PortalStores → Stage → Option (Stage × PortalStores)
  | [], stores, stage => some (stage, stores)
  | succeeds :: outcomes, stores, stage =>
    (stage.advance succeeds stores).bind fun moved => follow outcomes moved.2 moved.1

theorem run_of_follow {outcomes : List Bool} {server : PortalServer} {stage stage' : Stage}
    {stores' : PortalStores} (here : server.stages 0 = some stage)
    (followed : follow outcomes server.stores stage = some (stage', stores')) :
    ∃ server', step.run server (outcomes.map (.run 0)) = some server' ∧
      server'.stages 0 = some stage' ∧ server'.stores = stores' := by
  induction outcomes generalizing server stage with
  | nil =>
      obtain ⟨rfl, rfl⟩ := Prod.mk.inj (Option.some.inj followed)
      exact ⟨server, rfl, here, rfl⟩
  | cons succeeds outcomes ih =>
      obtain ⟨⟨next, stores⟩, moved, rest⟩ := Option.bind_eq_some_iff.mp followed
      have taken : step server (.run 0 succeeds) = some (server.settle 0 next stores) := by
        simp only [step, here, Option.bind_some, moved, Option.map_some]
      have there : (server.settle 0 next stores).stages 0 = some next := by rw [stages_settle, if_pos rfl]
      obtain ⟨server', run, settled⟩ := ih there rest
      exact ⟨server', Step.run_cons_iff.mpr ⟨_, taken, run⟩, settled⟩

theorem runsAlone_of_follow {asked : PortalRequest} {stores : PortalStores} (outcomes : List Bool)
    {result : Except PortalError Unit × PortalStores}
    (followed : follow outcomes stores asked.begin = some (.finished result.1, result.2)) :
    RunsAlone asked stores result := by
  have opened : step (idle stores) (.start 0 asked) = some ((idle stores).settle 0 asked.begin stores) := rfl
  have here : ((idle stores).settle 0 asked.begin stores).stages 0 = some asked.begin := by
    rw [stages_settle, if_pos rfl]
  obtain ⟨server, run, settled⟩ := run_of_follow here followed
  exact ⟨outcomes, server, Step.run_cons_iff.mpr ⟨_, opened, run⟩, settled⟩

theorem rotateMySecret_alone (fault : Option FaultPoint) (tenantId : TenantId) (secret : String)
    (stores : PortalStores) :
    RunsAlone (.rotateMySecret tenantId secret) stores (stores.rotateMySecret fault tenantId secret) := by
  unfold PortalStores.rotateMySecret
  by_cases failing : fault = some .upsertSecret
  · rw [if_pos failing]
    exact runsAlone_of_follow [true, false] rfl
  · rw [if_neg failing]
    exact runsAlone_of_follow [true, true] rfl

theorem signupTenant_alone (fault : Option FaultPoint) (signup : Signup) (stores : PortalStores) :
    RunsAlone (.signup signup) stores (stores.signupTenant fault signup) := by
  unfold PortalStores.signupTenant
  split
  · exact runsAlone_of_follow [false] rfl
  split
  · rename_i taken
    exact runsAlone_of_follow [true] (by simp [follow, Stage.advance, Stage.proceed, PortalRequest.begin, taken])
  rename_i unused
  have checked : ∀ outcomes, follow (true :: outcomes) stores (PortalRequest.signup signup).begin =
      follow outcomes stores (.registerTenant signup.tenantId signup.secret (some signup)) := by
    intro outcomes
    simp [follow, Stage.advance, Stage.proceed, PortalRequest.begin, unused]
  dsimp only
  split
  · exact runsAlone_of_follow [true, true, false] (checked _)
  split
  · exact runsAlone_of_follow [true, true, true, false] (checked _)
  split
  · exact runsAlone_of_follow [true, true, true, true, false] (checked _)
  split
  · rename_i err refused
    refine runsAlone_of_follow [true, true, true, true, true] ((checked _).trans ?_)
    simp [follow, Stage.advance, Stage.proceed, refused]
  · rename_i created inserted
    split
    · refine runsAlone_of_follow [true, true, true, true, true, false] ((checked _).trans ?_)
      simp [follow, Stage.advance, Stage.proceed, Stage.failure, inserted]
    · refine runsAlone_of_follow [true, true, true, true, true, true] ((checked _).trans ?_)
      simp [follow, Stage.advance, Stage.proceed, inserted]

end PortalServer

/-- What a step does to the stores, by what becomes of the request. -/
inductive Advances (stores : PortalStores) : Stage → Stage → PortalStores → Prop
  | failed (stage : Stage) (err : PortalError) (fallible : stage.failure.isSome = true) :
      Advances stores stage (.finished (.error err)) stores
  | checked (signup : Signup) (unused : stores.emailExists signup.email = false) :
      Advances stores (.emailExists signup)
        (.registerTenant signup.tenantId signup.secret (some signup)) stores
  | registered (tenantId : TenantId) (secret : String) (signup : Option Signup) :
      Advances stores (.registerTenant tenantId secret signup) (.upsertSecret tenantId secret signup)
        (stores.registerTenant tenantId secret)
  | stored (tenantId : TenantId) (secret : String) (signup : Option Signup) :
      Advances stores (.upsertSecret tenantId secret signup)
        (signup.elim (.finished (.ok ())) .hashPassword) (stores.upsertSecret tenantId secret)
  | hashed (signup : Signup) : Advances stores (.hashPassword signup) (.createUser signup) stores
  | userCreated (signup : Signup) :
      Advances stores (.createUser signup) .issueSession
        { stores with users := stores.users ++ [signup.user] }
  | issued : Advances stores .issueSession (.finished (.ok ())) stores
  | created (key : ApiKey) (fresh : ∀ row ∈ stores.plane.db.apiKeys,
        row.id ≠ key.id ∧ row.publicKey ≠ key.publicKey) :
      Advances stores (.createKey key) (.addExtraKey key)
        { stores with plane := { stores.plane with
            db := { stores.plane.db with apiKeys := stores.plane.db.apiKeys ++ [key] } } }
  | added (key : ApiKey) :
      Advances stores (.addExtraKey key) (.finished (.ok ())) (stores.addExtraKey key)
  | found (tenantId : TenantId) (keyId : Uuid) (key : ApiKey)
      (there : stores.plane.db.findById tenantId keyId = some key) :
      Advances stores (.findKey tenantId keyId) (.revokeKey tenantId keyId key.publicKey) stores
  | revoked (tenantId : TenantId) (keyId : Uuid) (publicKey : String)
      (active : stores.plane.db.apiKeys.any (PortalDb.isTarget tenantId keyId) = true) :
      Advances stores (.revokeKey tenantId keyId publicKey) (.revokeExtraKey tenantId publicKey)
        (stores.revokeKey tenantId keyId).2
  | removed (tenantId : TenantId) (publicKey : String) :
      Advances stores (.revokeExtraKey tenantId publicKey) (.finished (.ok ()))
        (stores.revokeExtraKey tenantId publicKey)

section
variable {stores stores' : PortalStores} {stage stage' : Stage}

theorem PortalStores.revokeKey_of_none {tenantId : TenantId} {keyId : Uuid}
    (none : stores.plane.db.apiKeys.any (PortalDb.isTarget tenantId keyId) = false) :
    (stores.revokeKey tenantId keyId).2 = stores := by
  have rows : (stores.plane.db.apiKeys.map fun row =>
      if PortalDb.isTarget tenantId keyId row then { row with isActive := false } else row) =
        stores.plane.db.apiKeys := by
    rw [List.map_congr_left (g := id) fun row member => ?_, List.map_id]
    have other : PortalDb.isTarget tenantId keyId row = false :=
      Bool.eq_false_iff.mpr fun target => by
        rw [List.any_eq_true.mpr ⟨row, member, target⟩] at none
        cases none
    simp [other]
  simp only [revokeKey, PortalDb.revoke, rows]

theorem advances_proceed (open_ : ∀ result, stage ≠ .finished result) :
    Advances stores stage (stage.proceed stores).1 (stage.proceed stores).2 := by
  cases stage with
  | emailExists signup =>
      cases taken : stores.emailExists signup.email with
      | true => simpa [Stage.proceed, taken] using Advances.failed _ _ rfl
      | false => simpa [Stage.proceed, taken] using Advances.checked signup taken
  | registerTenant tenantId secret signup => exact .registered tenantId secret signup
  | upsertSecret tenantId secret signup => exact .stored tenantId secret signup
  | hashPassword signup => exact .hashed signup
  | createUser signup =>
      cases inserted : stores.createUser signup.user with
      | error err => simpa only [Stage.proceed, inserted] using Advances.failed _ err rfl
      | ok created =>
          simp only [Stage.proceed, inserted]
          unfold PortalStores.createUser at inserted
          split at inserted
          · cases inserted
          · obtain rfl := Except.ok.inj inserted
            exact .userCreated signup
  | issueSession => exact .issued
  | createKey key =>
      cases inserted : stores.createKey key with
      | error err => simpa only [Stage.proceed, inserted] using Advances.failed _ err rfl
      | ok created =>
          simp only [Stage.proceed, inserted]
          unfold PortalStores.createKey PortalDb.create at inserted
          split at inserted
          · cases inserted
          · rename_i fresh
            obtain rfl := Except.ok.inj inserted
            refine .created key fun row member => ?_
            rw [List.any_eq_true, not_exists] at fresh
            simpa only [member, true_and, Bool.or_eq_true, decide_eq_true_eq, not_or] using fresh row
  | addExtraKey key => exact .added key
  | findKey tenantId keyId =>
      cases there : stores.plane.db.findById tenantId keyId with
      | none => simpa only [Stage.proceed, there] using Advances.failed _ _ rfl
      | some key => simpa only [Stage.proceed, there] using Advances.found tenantId keyId key there
  | revokeKey tenantId keyId publicKey =>
      have result : (stores.revokeKey tenantId keyId).1 =
        stores.plane.db.apiKeys.any (PortalDb.isTarget tenantId keyId) := rfl
      cases active : stores.plane.db.apiKeys.any (PortalDb.isTarget tenantId keyId) with
      | false =>
          simp only [Stage.proceed, result, active, PortalStores.revokeKey_of_none active]
          exact .failed _ _ rfl
      | true =>
          simp only [Stage.proceed, result, active]
          exact .revoked tenantId keyId publicKey active
  | revokeExtraKey tenantId publicKey => exact .removed tenantId publicKey
  | finished result => exact absurd rfl (open_ result)

theorem advances_of_advance {succeeds : Bool}
    (moved : stage.advance succeeds stores = some (stage', stores')) :
    Advances stores stage stage' stores' := by
  have open_ : ∀ result, stage ≠ .finished result := by
    rintro result rfl
    cases moved
  have unfolded : stage.advance succeeds stores = if succeeds then some (stage.proceed stores)
      else stage.failure.map fun err => (.finished (.error err), stores) := by
    unfold Stage.advance
    cases stage <;> first | rfl | exact absurd rfl (open_ _)
  rw [unfolded] at moved
  cases succeeds with
  | true =>
      obtain ⟨rfl, rfl⟩ := Prod.mk.inj (Option.some.inj moved)
      exact advances_proceed open_
  | false =>
      obtain ⟨err, fails, result⟩ := Option.map_eq_some_iff.mp moved
      obtain ⟨rfl, rfl⟩ := Prod.mk.inj result
      exact .failed stage err (by rw [fails]; rfl)

end

namespace PortalServer
variable {server server' : PortalServer} {e : PortalEvent}

theorem step_cases (taken : step server e = some server') :
    (∃ request asked, e = .start request asked ∧ server.stages request = none ∧
      server' = server.settle request asked.begin server.stores) ∨
    ∃ request succeeds stage stage' stores', e = .run request succeeds ∧
      server.stages request = some stage ∧ stage.advance succeeds server.stores = some (stage', stores') ∧
      server' = server.settle request stage' stores' := by
  cases e with
  | start request asked =>
      simp only [step] at taken
      split at taken
      · cases taken
      · rename_i free
        exact Or.inl ⟨request, asked, rfl, by simpa using free, (Option.some.inj taken).symm⟩
  | run request succeeds =>
      obtain ⟨stage, there, rest⟩ := Option.bind_eq_some_iff.mp taken
      obtain ⟨⟨stage', stores'⟩, moved, rfl⟩ := Option.map_eq_some_iff.mp rest
      exact Or.inr ⟨request, succeeds, stage, stage', stores', rfl, there, moved, rfl⟩

def At (stage : Stage) (server : PortalServer) : Prop := ∃ request, server.stages request = some stage

variable {stores : PortalStores} {stage stage' other : Stage} {request : Nat}

theorem at_settle (there : At other (server.settle request stage' stores)) :
    other = stage' ∨ At other server := by
  obtain ⟨asked, found⟩ := there
  rw [stages_settle] at found
  split at found
  · exact Or.inl (Option.some.inj found).symm
  · exact Or.inr ⟨asked, found⟩

theorem at_settled : At stage' (server.settle request stage' stores) :=
  ⟨request, by rw [stages_settle, if_pos rfl]⟩

theorem at_of_ne (here : server.stages request ≠ some other) (there : At other server) :
    At other (server.settle request stage' stores) := by
  obtain ⟨asked, found⟩ := there
  refine ⟨asked, ?_⟩
  rw [stages_settle, if_neg, found]
  rintro rfl
  exact here found

theorem at_finished {result : Except PortalError Unit} (taken : step server e = some server')
    (there : At (.finished result) server) : At (.finished result) server' := by
  rcases step_cases taken with ⟨request, asked, rfl, free, rfl⟩ |
    ⟨request, succeeds, stage, stage', stores', rfl, here, moved, rfl⟩
  · refine at_of_ne (fun here => ?_) there
    rw [free] at here
    cases here
  · refine at_of_ne (fun returned => ?_) there
    obtain rfl := Option.some.inj (here.symm.trans returned)
    cases moved

end PortalServer

section
variable {stores stores' : PortalStores} {stage stage' : Stage} (moved : Advances stores stage stage' stores')
include moved

theorem secrets_advances (other : ∀ tenantId secret signup, stage ≠ .registerTenant tenantId secret signup) :
    stores'.plane.tokenService.secrets = stores.plane.tokenService.secrets := by
  cases moved with
  | registered tenantId secret signup => exact absurd rfl (other _ _ _)
  | removed tenantId publicKey =>
      show (stores.plane.tokenService.revokeExtraKey tenantId publicKey).2.secrets = _
      unfold TokenService.revokeExtraKey
      split <;> rfl
  | _ => rfl

theorem tenantSecrets_advances (other : ∀ tenantId secret signup, stage ≠ .upsertSecret tenantId secret signup) :
    stores'.plane.db.tenantSecrets = stores.plane.db.tenantSecrets := by
  cases moved with
  | stored tenantId secret signup => exact absurd rfl (other _ _ _)
  | _ => rfl

end

end RealtimePlatform.Backend
