import RealtimePlatform.Backend.PortalRequests

namespace RealtimePlatform.Proof.FailedRequests
open Library Backend PortalServer PortalStores

/-- The `TokenService` and the durable tables are as they were. -/
structure Unchanged (before after : PortalStores) : Prop where
  tokenService : after.plane.tokenService = before.plane.tokenService
  tenantSecrets : ∀ tenantId, AList.lookup tenantId after.plane.db.tenantSecrets =
    AList.lookup tenantId before.plane.db.tenantSecrets
  apiKeys : after.plane.db.apiKeys = before.plane.db.apiKeys
  users : after.users = before.users

theorem unchanged_refl (stores : PortalStores) : Unchanged stores stores :=
  ⟨rfl, fun _ => rfl, rfl, rfl⟩

/-- The secret that a request has drawn is the one that the tenant has in memory, and on disk. -/
def InMemory (tenantId : TenantId) (secret : String) (stores : PortalStores) : Prop :=
  stores.plane.tokenService.secrets tenantId = some (utf8 secret)

def OnDisk (tenantId : TenantId) (secret : String) (stores : PortalStores) : Prop :=
  AList.lookup tenantId stores.plane.db.tenantSecrets = some secret

section
variable {tenantId : TenantId} {secret : String} {stores after : PortalStores}

theorem tokenService_registerTenant :
    (stores.registerTenant tenantId secret).plane.tokenService = stores.plane.tokenService ↔
      InMemory tenantId secret stores := by
  constructor
  · intro same
    have there := congrArg (fun auth => auth.secrets tenantId) same
    simpa [PortalStores.registerTenant, KeyPlane.registerTenant, TokenService.registerTenant, InMemory]
      using there.symm
  · intro same
    have secrets : Function.update stores.plane.tokenService.secrets tenantId (some (utf8 secret)) =
        stores.plane.tokenService.secrets := Function.update_eq_self_iff.mpr same.symm
    show TokenService.registerTenant tenantId (utf8 secret) stores.plane.tokenService = _
    rw [TokenService.registerTenant, secrets]

theorem unchanged_registerTenant :
    Unchanged stores (stores.registerTenant tenantId secret) ↔ InMemory tenantId secret stores := by
  rw [← tokenService_registerTenant]
  exact ⟨fun unchanged => unchanged.tokenService, fun same => ⟨same, fun _ => rfl, rfl, rfl⟩⟩

theorem lookup_upsertSecret (other : TenantId) :
    AList.lookup other ((stores.registerTenant tenantId secret).upsertSecret tenantId
      secret).plane.db.tenantSecrets = if other = tenantId then some secret
        else AList.lookup other stores.plane.db.tenantSecrets := by
  by_cases same : other = tenantId
  · subst same
    rw [if_pos rfl]
    exact AList.lookup_insert _
  · rw [if_neg same]
    exact AList.lookup_insert_ne same

theorem unchanged_upsertSecret :
    Unchanged stores ((stores.registerTenant tenantId secret).upsertSecret tenantId secret) ↔
      InMemory tenantId secret stores ∧ OnDisk tenantId secret stores := by
  rw [← tokenService_registerTenant]
  constructor
  · intro unchanged
    refine ⟨unchanged.tokenService, ?_⟩
    have there := unchanged.tenantSecrets tenantId
    rw [lookup_upsertSecret, if_pos rfl] at there
    exact there.symm
  · rintro ⟨same, there⟩
    refine ⟨same, fun other => ?_, rfl, rfl⟩
    rw [lookup_upsertSecret]
    split
    · rename_i equal
      rw [equal]
      exact there.symm
    · rfl

theorem createUser_ok {user : TenantUser} (inserted : stores.createUser user = .ok after) :
    (∀ row ∈ stores.users, row.id ≠ user.id ∧ row.email ≠ user.email) ∧
      after = { stores with users := stores.users ++ [user] } := by
  unfold PortalStores.createUser at inserted
  split at inserted
  · cases inserted
  · rename_i free
    refine ⟨fun row member => ?_, (Except.ok.inj inserted).symm⟩
    rw [List.any_eq_true, not_exists] at free
    simpa only [member, true_and, Bool.or_eq_true, decide_eq_true_eq, not_or] using free row

theorem createUser_error {user : TenantUser} {err : PortalError}
    (refused : stores.createUser user = .error err) :
    ∃ row ∈ stores.users, row.id = user.id ∨ row.email = user.email := by
  unfold PortalStores.createUser at refused
  split at refused
  · rename_i found
    obtain ⟨row, member, same⟩ := List.any_eq_true.mp found
    exact ⟨row, member, by simpa only [Bool.or_eq_true, decide_eq_true_eq] using same⟩
  · cases refused

end

/-- Where the signup fails it has written nothing that was not already there. -/
def Harmless (fault : Option FaultPoint) (signup : Signup) (stores : PortalStores) : Prop :=
  fault = some .emailExists ∨ stores.emailExists signup.email = true ∨
    InMemory signup.tenantId signup.secret stores ∧ (fault = some .upsertSecret ∨
      OnDisk signup.tenantId signup.secret stores ∧
        (fault = some .issueSession → ∃ row ∈ stores.users, row.id = signup.userId))

theorem rotateMySecret_error_iff {fault : Option FaultPoint} {tenantId : TenantId} {secret : String}
    {stores : PortalStores} :
    (∃ err, (stores.rotateMySecret fault tenantId secret).1 = .error err) ↔ fault = some .upsertSecret := by
  unfold PortalStores.rotateMySecret
  by_cases failing : fault = some .upsertSecret <;> simp [failing]

theorem rotation_unchanged_iff {fault : Option FaultPoint} {tenantId : TenantId} {secret : String}
    {stores : PortalStores} {err : PortalError}
    (failed : (stores.rotateMySecret fault tenantId secret).1 = .error err) :
    Unchanged stores (stores.rotateMySecret fault tenantId secret).2 ↔ InMemory tenantId secret stores := by
  have fails := rotateMySecret_error_iff.mp ⟨err, failed⟩
  rw [PortalStores.rotateMySecret, if_pos fails]
  exact unchanged_registerTenant

theorem signup_unchanged_iff {fault : Option FaultPoint} {signup : Signup} {stores : PortalStores}
    {err : PortalError} (failed : (stores.signupTenant fault signup).1 = .error err) :
    Unchanged stores (stores.signupTenant fault signup).2 ↔ Harmless fault signup stores := by
  unfold PortalStores.signupTenant at failed ⊢
  split
  · rename_i check
    exact iff_of_true (unchanged_refl _) (Or.inl check)
  rename_i check
  split
  · rename_i taken
    exact iff_of_true (unchanged_refl _) (Or.inr (Or.inl taken))
  rename_i unused
  rw [Harmless, or_iff_right check, or_iff_right unused]
  rw [if_neg check, if_neg unused] at failed
  dsimp only at failed ⊢
  split
  · rename_i upsert
    rw [unchanged_registerTenant]
    exact (and_iff_left (Or.inl upsert)).symm
  rename_i upsert
  rw [if_neg upsert] at failed
  rw [or_iff_right upsert]
  split
  · rename_i hash
    rw [unchanged_upsertSecret, hash]
    simp
  rename_i hash
  rw [if_neg hash] at failed
  split
  · rename_i create
    rw [unchanged_upsertSecret, create]
    simp
  rename_i create
  rw [if_neg create] at failed
  cases inserted : ((stores.registerTenant signup.tenantId signup.secret).upsertSecret signup.tenantId
      signup.secret).createUser signup.user with
  | error refused =>
      obtain ⟨row, member, clash⟩ := createUser_error inserted
      have unusedMail : row.email ≠ signup.email := fun same =>
        unused (List.any_eq_true.mpr ⟨row, member, decide_eq_true same⟩)
      rw [unchanged_upsertSecret]
      exact and_congr_right' (and_iff_left fun _ => ⟨row, member, clash.resolve_right unusedMail⟩).symm
  | ok created =>
      rw [inserted] at failed
      dsimp only at failed ⊢
      have issue : fault = some .issueSession := by
        by_contra never
        rw [if_neg never] at failed
        cases failed
      obtain ⟨free, rfl⟩ := createUser_ok inserted
      rw [if_pos issue]
      refine iff_of_false (fun unchanged => ?_) fun harmless => ?_
      · have lengths := congrArg List.length unchanged.users
        simp [PortalStores.upsertSecret, PortalStores.registerTenant] at lengths
      · obtain ⟨row, member, same⟩ := harmless.2.2 issue
        exact (free row member).1 same

def Writes (request : Nat) (server : PortalServer) : PortalEvent → Prop
  | .run asked succeeds => asked = request ∧ ∃ stage moved, server.stages asked = some stage ∧
    stage.advance succeeds server.stores = some moved ∧ ¬ Unchanged server.stores moved.2
  | _ => False

/-- A step fails after the registration of the request. -/
def FailsLate (server : PortalServer) : PortalEvent → Prop
  | .run request succeeds => match server.stages request with
    | some (.upsertSecret _ _ _) | some (.hashPassword _) | some .issueSession => succeeds = false
    | some (.createUser signup) => succeeds = false ∨
      ∃ row ∈ server.stores.users, row.id = signup.userId ∨ row.email = signup.email
    | _ => False
  | _ => False

def Keyed (tenantId : TenantId) (stores : PortalStores) : Prop :=
  stores.plane.tokenService.secrets tenantId ≠ none ∨
    AList.lookup tenantId stores.plane.db.tenantSecrets ≠ none

def HasUser (tenantId : TenantId) (stores : PortalStores) : Prop :=
  ∃ user ∈ stores.users, user.tenantId = tenantId

def Rotated (tenantId : TenantId) (es : List PortalEvent) : Prop :=
  ∃ request secret, .start request (.rotateMySecret tenantId secret) ∈ es

def SigningUp (tenantId : TenantId) (server : PortalServer) : Prop :=
  ∃ signup : Signup, signup.tenantId = tenantId ∧
    ((∃ secret, At (.upsertSecret tenantId secret (some signup)) server) ∨
      At (.hashPassword signup) server ∨ At (.createUser signup) server)

structure Clean (start : PortalServer) (es : List PortalEvent) (server : PortalServer) : Prop where
  untouched : ∀ request err, server.stages request = some (.finished (.error err)) →
    ¬ step.Happened (Writes request) start es
  owned : ∀ tenantId, Keyed tenantId server.stores → Keyed tenantId start.stores ∨
    HasUser tenantId server.stores ∨ Rotated tenantId es ∨ SigningUp tenantId server

def Unwritten : Option Stage → Prop
  | some (.upsertSecret _ _ _) | some (.hashPassword _) | some (.createUser _) | some .issueSession
  | some (.addExtraKey _) | some (.revokeExtraKey _ _) | some (.finished (.ok _)) => False
  | _ => True

section
variable {start server server' : PortalServer} {es : List PortalEvent} {e : PortalEvent} {request : Nat}
  {succeeds : Bool} {stage : Stage} {stores : PortalStores} {err : PortalError}

theorem unwritten_of_failed (here : server.stages request = some stage)
    (moved : stage.advance succeeds server.stores = some (.finished (.error err), stores))
    (early : ¬ FailsLate server (.run request succeeds)) : Unwritten (some stage) := by
  simp only [FailsLate, here] at early
  cases stage with
  | upsertSecret tenantId secret signup =>
      cases succeeds with
      | false => exact absurd rfl early
      | true => cases signup <;> cases moved
  | hashPassword signup =>
      cases succeeds with
      | false => exact absurd rfl early
      | true => cases moved
  | createUser signup =>
      cases succeeds with
      | false => exact absurd (Or.inl rfl) early
      | true =>
          simp only [Stage.advance, if_true, Stage.proceed, Option.some.injEq] at moved
          split at moved
          · rename_i refused
            exact absurd (Or.inr (createUser_error refused)) early
          · cases moved
  | issueSession =>
      cases succeeds with
      | false => exact absurd rfl early
      | true => cases moved
  | addExtraKey | revokeExtraKey => cases succeeds <;> cases moved
  | finished result => cases moved
  | _ => trivial

theorem not_writes_of_unwritten (before : Unwritten (server.stages request))
    (taken : step server e = some server') (early : ¬ FailsLate server e)
    (after : Unwritten (server'.stages request)) : ¬ Writes request server e := by
  cases e with
  | start asked opened => exact id
  | run asked succeeds =>
      rintro ⟨rfl, stage, ⟨stage', stores'⟩, here, moved, changed⟩
      have result : server' = server.settle asked stage' stores' := by
        simp only [step, here, Option.bind_some, moved, Option.map_some, Option.some.injEq] at taken
        exact taken.symm
      rw [result, stages_settle, if_pos rfl] at after
      rw [here] at before
      cases advances_of_advance moved with
      | failed | checked | found => exact changed (unchanged_refl _)
      | stored | hashed | userCreated | issued | added | removed => exact before
      | registered | created | revoked => exact after

theorem untouched_step (reached : step.run start es = some server)
    (taken : step server e = some server') (early : ¬ FailsLate server e)
    (untouched : ∀ request, Unwritten (server.stages request) → ¬ step.Happened (Writes request) start es) :
    ∀ request, Unwritten (server'.stages request) → ¬ step.Happened (Writes request) start (es ++ [e]) := by
  intro request after
  rw [Step.happened_concat_iff reached, not_or]
  have before : Unwritten (server.stages request) := by
    rcases step_cases taken with ⟨asked, opened, rfl, free, rfl⟩ |
      ⟨asked, succeeds, stage, stage', stores', rfl, here, moved, rfl⟩
    · rw [stages_settle] at after
      split at after
      · rename_i same
        rw [same, free]
        trivial
      · exact after
    · rw [stages_settle] at after
      split at after
      · rename_i same
        subst same
        rw [here]
        cases advances_of_advance moved with
        | failed _ err => exact unwritten_of_failed here moved early
        | checked | found => trivial
        | stored tenantId secret signup => cases signup <;> exact after.elim
        | registered | hashed | userCreated | issued | created | added | revoked | removed =>
            exact after.elim
      · exact after
  exact ⟨untouched request before, not_writes_of_unwritten before taken early after⟩

def OnBehalf (es : List PortalEvent) : Stage → Prop
  | .registerTenant tenantId _ signup | .upsertSecret tenantId _ signup =>
    signup.elim (Rotated tenantId es) fun signup => signup.tenantId = tenantId
  | _ => True

theorem Rotated.mono {tenantId : TenantId} (rotated : Rotated tenantId es) (e : PortalEvent) :
    Rotated tenantId (es ++ [e]) := by
  obtain ⟨request, secret, member⟩ := rotated
  exact ⟨request, secret, List.mem_append_left _ member⟩

theorem OnBehalf.mono (behalf : OnBehalf es stage) (e : PortalEvent) : OnBehalf (es ++ [e]) stage := by
  cases stage with
  | registerTenant tenantId secret signup | upsertSecret tenantId secret signup =>
      cases signup with
      | none => exact Rotated.mono behalf e
      | some signup => exact behalf
  | _ => trivial

theorem onBehalf_step (taken : step server e = some server')
    (behalf : ∀ stage, At stage server → OnBehalf es stage) :
    ∀ stage, At stage server' → OnBehalf (es ++ [e]) stage := by
  intro stage there
  rcases step_cases taken with ⟨request, asked, rfl, free, rfl⟩ |
    ⟨request, succeeds, old, stage', stores', rfl, here, moved, rfl⟩
  · rcases at_settle there with rfl | before
    · cases asked with
      | rotateMySecret tenantId secret => exact ⟨request, secret, by simp⟩
      | generateApiKey id tenantId name publicKey secret =>
          simp only [PortalRequest.begin]
          split <;> trivial
      | signup | revokeApiKey => trivial
    · exact (behalf stage before).mono _
  · rcases at_settle there with rfl | before
    · have was := (behalf old ⟨request, here⟩).mono (.run request succeeds)
      cases advances_of_advance moved with
      | checked => rfl
      | registered => exact was
      | stored tenantId secret signup => cases signup <;> trivial
      | _ => trivial
    · exact (behalf stage before).mono _

theorem hasUser_step {tenantId : TenantId} (taken : step server e = some server')
    (account : HasUser tenantId server.stores) : HasUser tenantId server'.stores := by
  obtain ⟨user, member, own⟩ := account
  rcases step_cases taken with ⟨request, asked, rfl, free, rfl⟩ |
    ⟨request, succeeds, stage, stage', stores', rfl, here, moved, rfl⟩
  · exact ⟨user, member, own⟩
  · cases advances_of_advance moved with
    | userCreated signup => exact ⟨user, List.mem_append_left _ member, own⟩
    | _ => exact ⟨user, member, own⟩

theorem keyed_advances {tenantId : TenantId} {stage' : Stage} {stores' : PortalStores}
    (advanced : Advances stores stage stage' stores') (keyed : Keyed tenantId stores') :
    Keyed tenantId stores ∨ (∃ secret signup, stage = .registerTenant tenantId secret signup) ∨
      ∃ secret signup, stage = .upsertSecret tenantId secret signup := by
  by_cases registers : ∃ tenant secret signup, stage = .registerTenant tenant secret signup
  · obtain ⟨tenant, secret, signup, rfl⟩ := registers
    by_cases same : tenant = tenantId
    · exact Or.inr (Or.inl ⟨secret, signup, by rw [same]⟩)
    · cases advanced with
      | failed _ _ fallible => cases fallible
      | registered =>
          refine Or.inl (keyed.imp_left fun there => ?_)
          simpa [PortalStores.registerTenant, KeyPlane.registerTenant, TokenService.registerTenant,
            Function.update_of_ne (Ne.symm same)] using there
  · by_cases upserts : ∃ tenant secret signup, stage = .upsertSecret tenant secret signup
    · obtain ⟨tenant, secret, signup, rfl⟩ := upserts
      by_cases same : tenant = tenantId
      · exact Or.inr (Or.inr ⟨secret, signup, by rw [same]⟩)
      · refine Or.inl ?_
        generalize was : Stage.upsertSecret tenant secret signup = old at advanced
        cases advanced with
        | failed => exact keyed
        | stored =>
            cases was
            refine keyed.imp_right fun there => ?_
            simpa [PortalStores.upsertSecret, PortalDb.upsert, AList.lookup_insert_ne (Ne.symm same)]
              using there
        | _ => cases was
    · push Not at registers upserts
      refine Or.inl ?_
      rw [Keyed, secrets_advances advanced registers, tenantSecrets_advances advanced upserts] at keyed
      exact keyed

theorem accounted_step {tenantId : TenantId} {stage' : Stage} {stores' : PortalStores}
    (here : server.stages request = some stage)
    (moved : stage.advance succeeds server.stores = some (stage', stores'))
    (early : ¬ FailsLate server (.run request succeeds)) {signup : Signup} (own : signup.tenantId = tenantId)
    (writes : (∃ secret, stage = .registerTenant tenantId secret (some signup)) ∨
      (∃ secret, stage = .upsertSecret tenantId secret (some signup)) ∨ stage = .hashPassword signup ∨
      stage = .createUser signup) :
    HasUser tenantId stores' ∨ SigningUp tenantId (server.settle request stage' stores') := by
  simp only [FailsLate, here] at early
  have arrived : At stage' (server.settle request stage' stores') := at_settled
  rcases writes with ⟨secret, rfl⟩ | ⟨secret, rfl⟩ | rfl | rfl
  · cases succeeds <;> cases moved
    exact Or.inr ⟨signup, own, Or.inl ⟨secret, arrived⟩⟩
  · cases succeeds with
    | false => exact absurd rfl early
    | true =>
        cases moved
        exact Or.inr ⟨signup, own, Or.inr (Or.inl arrived)⟩
  · cases succeeds with
    | false => exact absurd rfl early
    | true =>
        cases moved
        exact Or.inr ⟨signup, own, Or.inr (Or.inr arrived)⟩
  · cases succeeds with
    | false => exact absurd (Or.inl rfl) early
    | true =>
        simp only [Stage.advance, if_true, Stage.proceed, Option.some.injEq] at moved
        split at moved
        · rename_i refused
          exact absurd (Or.inr (createUser_error refused)) early
        · rename_i created inserted
          obtain ⟨_, rfl⟩ := createUser_ok inserted
          cases moved
          exact Or.inl ⟨signup.user, by simp, own⟩

theorem signingUp_step {tenantId : TenantId} (taken : step server e = some server')
    (early : ¬ FailsLate server e) (signing : SigningUp tenantId server) :
    HasUser tenantId server'.stores ∨ SigningUp tenantId server' := by
  obtain ⟨signup, own, stages⟩ := signing
  rcases step_cases taken with ⟨request, asked, rfl, free, rfl⟩ |
    ⟨request, succeeds, stage, stage', stores', rfl, here, moved, rfl⟩
  · have kept : ∀ stage, At stage server → At stage (server.settle request asked.begin server.stores) :=
      fun stage => at_of_ne (by rw [free]; rintro ⟨⟩)
    exact Or.inr ⟨signup, own, stages.imp (fun ⟨secret, there⟩ => ⟨secret, kept _ there⟩)
      (Or.imp (kept _) (kept _))⟩
  · by_cases mine : (∃ secret, stage = .upsertSecret tenantId secret (some signup)) ∨
        stage = .hashPassword signup ∨ stage = .createUser signup
    · exact accounted_step here moved early own (Or.inr mine)
    · push Not at mine
      have kept : ∀ other, stage ≠ other → At other server →
          At other (server.settle request stage' stores') := fun other apart =>
        at_of_ne fun same => apart (Option.some.inj (here.symm.trans same))
      exact Or.inr ⟨signup, own, stages.imp (fun ⟨secret, there⟩ => ⟨secret, kept _ (mine.1 secret) there⟩)
        (Or.imp (kept _ mine.2.1) (kept _ mine.2.2))⟩

theorem owned_step {tenantId : TenantId} (taken : step server e = some server')
    (early : ¬ FailsLate server e) (behalf : ∀ stage, At stage server → OnBehalf es stage)
    (owned : Keyed tenantId server.stores → Keyed tenantId start.stores ∨
      HasUser tenantId server.stores ∨ Rotated tenantId es ∨ SigningUp tenantId server)
    (keyed : Keyed tenantId server'.stores) : Keyed tenantId start.stores ∨
      HasUser tenantId server'.stores ∨ Rotated tenantId (es ++ [e]) ∨ SigningUp tenantId server' := by
  have before : Keyed tenantId server.stores → Keyed tenantId start.stores ∨
      HasUser tenantId server'.stores ∨ Rotated tenantId (es ++ [e]) ∨ SigningUp tenantId server' := by
    intro keyed
    rcases owned keyed with always | account | rotated | signing
    · exact Or.inl always
    · exact Or.inr (Or.inl (hasUser_step taken account))
    · exact Or.inr (Or.inr (Or.inl (rotated.mono e)))
    · rcases signingUp_step taken early signing with account | still
      · exact Or.inr (Or.inl account)
      · exact Or.inr (Or.inr (Or.inr still))
  rcases step_cases taken with ⟨request, asked, rfl, free, rfl⟩ |
    ⟨request, succeeds, stage, stage', stores', rfl, here, moved, rfl⟩
  · exact before keyed
  · rcases keyed_advances (advances_of_advance moved) keyed with earlier | ⟨secret, signup, rfl⟩ |
      ⟨secret, signup, rfl⟩
    · exact before earlier
    · have whose := behalf _ ⟨request, here⟩
      cases signup with
      | none => exact Or.inr (Or.inr (Or.inl (Rotated.mono whose _)))
      | some signup =>
          rcases accounted_step here moved early whose (Or.inl ⟨secret, rfl⟩) with account | signing
          · exact Or.inr (Or.inl account)
          · exact Or.inr (Or.inr (Or.inr signing))
    · have whose := behalf _ ⟨request, here⟩
      cases signup with
      | none => exact Or.inr (Or.inr (Or.inl (Rotated.mono whose _)))
      | some signup =>
          rcases accounted_step here moved early whose (Or.inr (Or.inl ⟨secret, rfl⟩)) with account | signing
          · exact Or.inr (Or.inl account)
          · exact Or.inr (Or.inr (Or.inr signing))

theorem clean_of_run (idle : ∀ request, start.stages request = none)
    (reached : step.run start es = some server)
    (early : step.Meets (fun server e => ¬ FailsLate server e) start es) : Clean start es server := by
  have held : (∀ request, Unwritten (server.stages request) → ¬ step.Happened (Writes request) start es) ∧
      (∀ stage, At stage server → OnBehalf es stage) ∧
      ∀ tenantId, Keyed tenantId server.stores → Keyed tenantId start.stores ∨
        HasUser tenantId server.stores ∨ Rotated tenantId es ∨ SigningUp tenantId server := by
    refine Step.run_induction (fun es server => step.Meets (fun server e => ¬ FailsLate server e) start es →
      (∀ request, Unwritten (server.stages request) → ¬ step.Happened (Writes request) start es) ∧
      (∀ stage, At stage server → OnBehalf es stage) ∧
      ∀ tenantId, Keyed tenantId server.stores → Keyed tenantId start.stores ∨
        HasUser tenantId server.stores ∨ Rotated tenantId es ∨ SigningUp tenantId server) ?_ ?_ reached early
    · refine fun _ => ⟨?_, ?_, fun _ keyed => Or.inl keyed⟩
      · rintro request _ ⟨ds, e, t, short, _⟩
        simp at short
      · rintro stage ⟨request, there⟩
        rw [idle] at there
        cases there
    · intro es server e server' before ih taken met
      obtain ⟨earlier, now⟩ := (Step.meets_concat before).mp met
      obtain ⟨untouched, behalf, owned⟩ := ih earlier
      exact ⟨untouched_step before taken now untouched, onBehalf_step taken behalf,
        fun tenantId => owned_step taken now behalf (owned tenantId)⟩
  refine ⟨fun request err returned => held.1 request ?_, held.2.2⟩
  rw [returned]
  trivial

end

theorem rotation_verifies {fault : Option FaultPoint} {tenantId : TenantId} {secret : String}
    {stores : PortalStores} {err : PortalError}
    (failed : (rotateMySecret fault tenantId secret stores).1 = .error err) :
    (rotateMySecret fault tenantId secret stores).2.plane.tokenService.verifyTenantSecret tenantId
      (utf8 secret) = true := by
  have fails := rotateMySecret_error_iff.mp ⟨err, failed⟩
  rw [PortalStores.rotateMySecret, if_pos fails, TokenService.verifyTenantSecret_iff,
    TokenService.mem_activeSecrets]
  exact Or.inl (Function.update_self _ _ _)

/-- A failed rotation always leaves its secret behind, a failed signup unless it fails in time, and no
request of a run does in which none fails after its registration. -/
theorem traceless_iff (fault : Option FaultPoint) (tenantId : TenantId) (secret : String) (signup : Signup)
    (stores : PortalStores) (err : PortalError) :
    ((rotateMySecret fault tenantId secret stores).1 = .error err →
      (Unchanged stores (rotateMySecret fault tenantId secret stores).2 ↔ InMemory tenantId secret stores) ∧
      (rotateMySecret fault tenantId secret stores).2.plane.tokenService.verifyTenantSecret tenantId
        (utf8 secret) = true) ∧
    ((signupTenant fault signup stores).1 = .error err →
      (Unchanged stores (signupTenant fault signup stores).2 ↔ Harmless fault signup stores)) ∧
    ∀ start server es, (∀ request, start.stages request = none) → step.run start es = some server →
      step.Meets (fun server e => ¬ FailsLate server e) start es → Clean start es server :=
  ⟨fun failed => ⟨rotation_unchanged_iff failed, rotation_verifies failed⟩,
    fun failed => signup_unchanged_iff failed, fun _ _ _ => clean_of_run⟩

def keyed : PortalStores := ⟨(KeyPlane.start none).registerAndStore demoTenant "old" true, []⟩

theorem secrets_keyed : keyed.plane.tokenService.secrets demoTenant = some (utf8 "old") := by
  simp [keyed, KeyPlane.registerAndStore, KeyPlane.registerTenant, TokenService.registerTenant]

theorem not_inMemory_keyed : ¬ InMemory demoTenant "new" keyed := by
  rw [InMemory, secrets_keyed]
  intro same
  have equal := utf8_injective (Option.some.inj same)
  revert equal
  decide

theorem rotation_leaves_secret : ¬ ∀ fault tenantId secret stores err,
    (rotateMySecret fault tenantId secret stores).1 = .error err →
      Unchanged stores (rotateMySecret fault tenantId secret stores).2 := by
  intro unchanged
  have same := unchanged (some .upsertSecret) demoTenant "new" keyed .database rfl
  exact not_inMemory_keyed (unchanged_registerTenant.mp same)

def visitor : Signup :=
  ⟨"a@b.c", demoTenant, "new", ⟨List.replicate 15 0 ++ [2], rfl⟩, "$argon2id$"⟩

theorem traceless_iff_keyed :
    (Unchanged keyed (rotateMySecret (some .upsertSecret) demoTenant "new" keyed).2 ↔
      InMemory demoTenant "new" keyed) ∧
    (Unchanged keyed (signupTenant (some .emailExists) visitor keyed).2 ↔
      Harmless (some .emailExists) visitor keyed) ∧
    Clean (idle keyed) [.start 0 (.signup visitor), .run 0 false]
      (((idle keyed).settle 0 (.emailExists visitor) keyed).settle 0
        (.finished (.error .database)) keyed) := by
  have rotation := (traceless_iff (some .upsertSecret) demoTenant "new" visitor keyed .database).1 rfl
  have later := (traceless_iff (some .emailExists) demoTenant "new" visitor keyed .database).2
  refine ⟨rotation.1, later.1 rfl, later.2 _ _ _ (fun _ => rfl) rfl ?_⟩
  exact Step.meets_cons id rfl (Step.meets_cons id rfl trivial)

end RealtimePlatform.Proof.FailedRequests
