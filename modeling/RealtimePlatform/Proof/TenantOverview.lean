import RealtimePlatform.Backend.Attendance
import RealtimePlatform.Backend.Overview
import RealtimePlatform.Proof.PushAccounts
import RealtimePlatform.Proof.RateLimits
import Mathlib.Algebra.BigOperators.Group.List.Lemmas

namespace RealtimePlatform.Proof.TenantOverview
open Library Backend Backend.Server PushAccounts

def handled (env : Env) (l : Ledger) : Event → Option (TenantId × String)
  | .inbound s bytes now => (Frame.parseSlice bytes).toOption.bind fun frame =>
    if (l.rateLimiter.check s frame.tenantId now.instant).1 then some (frame.tenantId, frame.opcode.label) else none
  | .http request now =>
    if request.admissible env.codec l.auth now.unixSecs ∧
        (l.rateLimiter.checkTenant request.tenantId now.instant).1 ∧ Ledger.builds request then
      some (request.tenantId, Opcode.publish.label)
    else none
  | _ => none

def refused (l : Ledger) : Event → Option TenantId
  | .inbound s bytes now => (Frame.parseSlice bytes).toOption.bind fun frame =>
    if (l.rateLimiter.check s frame.tenantId now.instant).1 then none else some frame.tenantId
  | _ => none

def handledFrames (env : Env) (first : Server) (es : List Event) : List (TenantId × String) :=
  Step.observed (step env) (fun server e => handled env server.ledger e) first es

def refusedFrames (env : Env) (first : Server) (es : List Event) : List TenantId :=
  Step.observed (step env) (fun server e => refused server.ledger e) first es

structure Tallied (messages : List (TenantId × String)) (limited : List TenantId) (l : Ledger) : Prop where
  messages : ∀ tenantId label, l.messagesTotal tenantId label = messages.count (tenantId, label)
  limited : ∀ tenantId, l.rateLimitedTotal tenantId = limited.count tenantId

section
variable {env : Env} {l l' : Ledger} {e : Event} {messages : List (TenantId × String)} {limited : List TenantId}

theorem Tallied.same (tallied : Tallied messages limited l) (messagesTotal : l'.messagesTotal = l.messagesTotal)
    (rateLimitedTotal : l'.rateLimitedTotal = l.rateLimitedTotal) : Tallied messages limited l' := by
  constructor
  · rw [messagesTotal]
    exact tallied.messages
  · rw [rateLimitedTotal]
    exact tallied.limited

theorem Tallied.count (tallied : Tallied messages limited l) (tenantId : TenantId) (label : String) :
    Tallied (messages ++ [(tenantId, label)]) limited (l.count tenantId label) := by
  constructor
  · intro tenant other
    by_cases hit : tenant = tenantId ∧ other = label
    · obtain ⟨rfl, rfl⟩ := hit
      simp [Ledger.count, tallied.messages]
    · have missed : (tenantId, label) ≠ (tenant, other) := by
        intro same
        cases same
        exact hit ⟨rfl, rfl⟩
      simp [Ledger.count, tallied.messages, hit, missed]
  · exact tallied.limited

theorem Tallied.refuse (tallied : Tallied messages limited l) (tenantId : TenantId) :
    Tallied messages (limited ++ [tenantId]) (l.refuse tenantId) := by
  constructor
  · exact tallied.messages
  · intro tenant
    by_cases hit : tenant = tenantId
    · subst hit
      simp [Ledger.refuse, tallied.limited]
    · simp [Ledger.refuse, tallied.limited, hit, Ne.symm hit]

theorem tallied_step (tallied : Tallied messages limited l) (taken : Ledger.step env l e = some l') :
    Tallied (messages ++ (handled env l e).toList) (limited ++ (refused l e).toList) l' := by
  obtain ⟨rfl, _⟩ := RateLimits.after_of_step taken
  cases e with
  | inbound s bytes now =>
      simp only [Ledger.after, Ledger.arrive, handled, refused]
      cases parsed : Frame.parseSlice bytes with
      | error err => simpa [Except.toOption] using tallied
      | ok frame =>
          have charged : Tallied messages limited (l.charge s frame.tenantId now) := tallied.same rfl rfl
          cases allowed : (l.rateLimiter.check s frame.tenantId now.instant).1 with
          | false =>
              simpa [Except.toOption, Ledger.frame, Ledger.settle, allowed] using charged.refuse frame.tenantId
          | true =>
              have counted := charged.count frame.tenantId frame.opcode.label
              simp only [Except.toOption, Option.bind_some, allowed, Ledger.frame, Ledger.settle, if_true,
                Option.toList_some, Option.toList_none, List.append_nil]
              split
              · exact counted.same rfl rfl
              · exact counted
  | http request now =>
      have charged : Tallied messages limited (l.chargeTenant request.tenantId now) := tallied.same rfl rfl
      by_cases admissible : request.admissible env.codec l.auth now.unixSecs = true
      · by_cases allowed : (l.rateLimiter.checkTenant request.tenantId now.instant).1 = true ∧
            Ledger.builds request = true
        · simpa [Ledger.after, Ledger.http, handled, refused, admissible, allowed] using
            charged.count request.tenantId Opcode.publish.label
        · simpa [Ledger.after, Ledger.http, handled, refused, admissible, allowed] using charged
      · simpa [Ledger.after, Ledger.http, handled, refused, admissible] using tallied
  | admin op =>
      have same : Tallied messages limited (l.admin op) := by cases op <;> exact tallied.same rfl rfl
      simpa [Ledger.after, handled, refused] using same
  | disconnect s now =>
      have same : Tallied messages limited (l.drop s) := tallied.same rfl rfl
      simpa [Ledger.after, handled, refused] using same
  | _ => simpa [Ledger.after, handled, refused] using tallied

end

theorem sum_counts {β : Type*} [equality : BEq β] [LawfulBEq β] {children counted : List β} (distinct : children.Nodup)
    (mem : ∀ child, child ∈ children ↔ counted.count child ≠ 0) (mine : β → Bool) :
    ((children.filter mine).map counted.count).sum = counted.countP mine := by
  classical
  obtain rfl : equality = instBEqOfDecidableEq := lawful_beq_subsingleton _ _
  have same : children.Perm counted.dedup := by
    rw [List.perm_ext_iff_of_nodup distinct (counted.nodup_dedup)]
    intro child
    rw [mem, List.mem_dedup, ← Nat.pos_iff_ne_zero, List.count_pos_iff]
  rw [((same.filter mine).map counted.count).sum_eq, List.sum_map_count_dedup_filter_eq_countP]

theorem sum_scan {β : Type*} {written others : List (List Char)} {children : List β} {line : β → List Char}
    {keep : List Char → Bool} {mine : β → Bool} {count : β → Nat}
    (order : written.Perm (children.map line ++ others))
    (found : ∀ child ∈ children, keep (line child) = mine child) (missed : ∀ other ∈ others, keep other = false)
    (value : ∀ child, (parseF64 (lastWord (line child))).map Double.asU64 = some (count child)) :
    (((written.filter keep).filterMap fun line => parseF64 (lastWord line)).map Double.asU64).sum =
      ((children.filter mine).map count).sum := by
  have kept : (children.map line ++ others).filter keep = (children.filter mine).map line := by
    have none : others.filter keep = [] := by
      rw [List.filter_eq_nil_iff]
      intro other member
      rw [missed other member]
      exact Bool.false_ne_true
    rw [List.filter_append, none, List.append_nil, List.filter_map]
    congr 1
    apply List.filter_congr
    exact found
  have read : ∀ chosen : List β, ((chosen.map line).filterMap fun line => parseF64 (lastWord line)).map Double.asU64 =
      chosen.map count := by
    intro chosen
    rw [List.map_filterMap, List.filterMap_map, ← List.filterMap_eq_map]
    congr 1
    funext child
    exact value child
  rw [← read, ← kept]
  exact (((order.filter keep).filterMap _).map _).sum_eq

section
variable {metrics : MetricsService}

theorem labelSafe_hexBytes (bytes : List UInt8) : LabelSafe (hexBytes bytes) := by
  have table : ∀ n : Fin 16, hexDigit n ≠ '\\' ∧ hexDigit n ≠ '"' ∧ hexDigit n ≠ '\n' := by decide
  intro c member
  simp only [hexBytes, List.mem_flatMap, List.mem_cons, List.not_mem_nil, or_false] at member
  obtain ⟨byte, -, rfl | rfl⟩ := member
  · exact table ⟨byte.toNat / 16, by have bound := byte.toNat_lt; omega⟩
  · exact table ⟨byte.toNat % 16, Nat.mod_lt _ (by decide)⟩

theorem labelSafe_toText (id : Uuid) : LabelSafe id.toText := by
  intro c member
  have dash : '-' ≠ '\\' ∧ '-' ≠ '"' ∧ '-' ≠ '\n' := by decide
  simp only [Uuid.toText, List.mem_append, List.mem_cons] at member
  rcases member with hex | rfl | hex | rfl | hex | rfl | hex | rfl | hex
  all_goals first | exact dash | exact labelSafe_hexBytes _ c hex

theorem labelSafe_label (opcode : Opcode) : LabelSafe opcode.label.toList := by
  cases opcode <;> decide

theorem notMem_toDigits (n : Nat) {c : Char} (other : c.isDigit = false) : c ∉ Nat.toDigits 10 n := by
  intro member
  rw [Nat.isDigit_of_mem_toDigits (by decide) (by decide) member] at other
  cases other

theorem value_read {n : Nat} (small : n < 2 ^ 53) (front : List Char) :
    (parseF64 (lastWord (front ++ ' ' :: Nat.toDigits 10 n))).map Double.asU64 = some n := by
  rw [lastWord_append front (notMem_toDigits n (by decide)), parseF64_toDigits small, Option.map_some,
    asU64_finite (small.trans (by decide))]

theorem getLast?_value (front : List Char) (n : Nat) :
    (front ++ ' ' :: Nat.toDigits 10 n).getLast? ≠ some '\r' := by
  intro last
  have split : front ++ ' ' :: Nat.toDigits 10 n = (front ++ [' ']) ++ Nat.toDigits 10 n := by simp
  rw [split, List.getLast?_append_of_ne_nil _ Nat.toDigits_ne_nil] at last
  exact notMem_toDigits n (by decide) (List.mem_of_getLast? last)

theorem messageLine_eq (metrics : MetricsService) (tenantId : TenantId) (opcode : Opcode) :
    messageLine metrics (tenantId, opcode.label) =
      ("realtime_engine_messages_total\x7bopcode=\"".toList ++ opcode.label.toList ++ "\",tenant_id=\"".toList ++
        tenantId.toText ++ "\"\x7d".toList) ++ ' ' :: Nat.toDigits 10 (metrics.messagesTotal tenantId opcode.label) := by
  rw [messageLine, sampleLine_pair _ _ _ _ _ _ (labelSafe_label opcode) (labelSafe_toText tenantId)]
  simp

theorem limitedLine_eq (metrics : MetricsService) (tenantId : TenantId) :
    limitedLine metrics tenantId = ("realtime_engine_rate_limited_total\x7btenant_id=\"".toList ++
      tenantId.toText ++ "\"\x7d".toList) ++ ' ' :: Nat.toDigits 10 (metrics.rateLimitedTotal tenantId) := by
  rw [limitedLine, sampleLine_single _ _ _ _ (labelSafe_toText tenantId)]
  simp

theorem word_eq (tenantId : TenantId) : "tenant_id=\"".toList ++ tenantId.toText ++ ['"'] =
    labelText ("tenant_id", tenantId.toText) := by
  rw [labelText_eq (labelSafe_toText tenantId)]
  simp

theorem label_messageLine (tenantId owner : TenantId) (opcode : Opcode) :
    labelText ("tenant_id", tenantId.toText) <:+: messageLine metrics (owner, opcode.label) ↔
      tenantId.toText = owner.toText := by
  have odd : tenantId.toText ≠ ',' :: "tenant_id".toList ++ ['='] := by
    intro same
    have sizes := congrArg List.length same
    rw [Uuid.length_toText] at sizes
    exact absurd sizes (by decide)
  exact labelText_infix_pair (by decide) (by decide) (by decide)
    (labelSafe_toText tenantId) (labelSafe_label opcode) (labelSafe_toText owner) (notMem_toDigits _ (by decide)) (by decide) odd

theorem label_limitedLine (tenantId owner : TenantId) :
    labelText ("tenant_id", tenantId.toText) <:+: limitedLine metrics owner ↔ tenantId.toText = owner.toText :=
  labelText_infix_single (by decide) (by decide) (labelSafe_toText tenantId)
    (labelSafe_toText owner) (notMem_toDigits _ (by decide))

theorem samples_iff {name : String} {line : List Char} {tenantId owner : TenantId} (named : name.toList <+: line)
    (first : name.toList.head? = some 'r')
    (label : labelText ("tenant_id", tenantId.toText) <:+: line ↔ tenantId.toText = owner.toText) :
    samples name tenantId line = decide (owner = tenantId) := by
  have start : line.head? = some 'r' := by
    obtain ⟨rest, rfl⟩ := named
    rw [List.head?_append, first]
    rfl
  rw [samples, word_eq]
  simp [named, start, label, Uuid.toText_injective.eq_iff, eq_comm]

theorem named_sampleLine (name : String) (labels : List (String × List Char)) (value : List Char) :
    name.toList <+: sampleLine name labels value := by
  rw [sampleLine, List.append_assoc]
  exact List.prefix_append _ _

theorem not_samples {name other : String} {line : List Char} (starts : other.toList <+: line)
    (apart : ¬ name.toList <+: other.toList) (apart' : ¬ other.toList <+: name.toList) (tenantId : TenantId) :
    samples name tenantId line = false := by
  have missed : ¬ name.toList <+: line := by
    intro named
    exact (List.prefix_or_prefix_of_prefix named starts).elim apart apart'
  simp [samples, missed]

theorem LabelSafe.feed {text : List Char} (plain : LabelSafe text) : '\n' ∉ text := fun member => (plain _ member).2.2 rfl

theorem single_messageLine (owner : TenantId) (opcode : Opcode) :
    '\n' ∉ messageLine metrics (owner, opcode.label) ∧
      (messageLine metrics (owner, opcode.label)).getLast? ≠ some '\r' := by
  rw [messageLine_eq]
  constructor
  · have label := LabelSafe.feed (labelSafe_label opcode)
    have tenant := LabelSafe.feed (labelSafe_toText owner)
    have value := notMem_toDigits (metrics.messagesTotal owner opcode.label) (show ('\n').isDigit = false by decide)
    simp [label, tenant, value]
  · exact getLast?_value _ _

theorem single_limitedLine (owner : TenantId) :
    '\n' ∉ limitedLine metrics owner ∧ (limitedLine metrics owner).getLast? ≠ some '\r' := by
  rw [limitedLine_eq]
  constructor
  · have tenant := LabelSafe.feed (labelSafe_toText owner)
    have value := notMem_toDigits (metrics.rateLimitedTotal owner) (show ('\n').isDigit = false by decide)
    simp [tenant, value]
  · exact getLast?_value _ _

/-- Every label that has been counted under is that of an opcode. -/
def Labelled (metrics : MetricsService) : Prop :=
  ∀ tenantId label, metrics.messagesTotal tenantId label ≠ 0 → ∃ opcode : Opcode, label = opcode.label

variable {exposition : Exposition metrics}

theorem lines_text (labelled : Labelled metrics) : lines exposition.text = exposition.written := by
  have single : ∀ line ∈ exposition.written, '\n' ∉ line ∧ line.getLast? ≠ some '\r' := by
    intro line member
    rw [exposition.order.mem_iff, List.mem_append, List.mem_append] at member
    rcases member with message | limited | other
    · obtain ⟨⟨owner, label⟩, child, rfl⟩ := List.mem_map.mp message
      obtain ⟨opcode, rfl⟩ := labelled owner label ((exposition.mem_children _).mp child)
      exact single_messageLine owner opcode
    · obtain ⟨owner, _, rfl⟩ := List.mem_map.mp limited
      exact single_limitedLine owner
    · exact exposition.single line other
  exact lines_join (fun line member => (single line member).1) (fun line member => (single line member).2)

theorem not_samples_others {name : String} (apart : ∀ other ∈ otherMetrics, ¬ name.toList <+: other.toList ∧
    ¬ other.toList <+: name.toList) (tenantId : TenantId) :
    ∀ line ∈ exposition.others, samples name tenantId line = false := by
  intro line member
  rcases exposition.foreign line member with comment | ⟨other, known, starts⟩
  · simp [samples, comment]
  · exact not_samples starts (apart other known).1 (apart other known).2 tenantId

theorem sum_messages (labelled : Labelled metrics) (small : ∀ tenantId label, metrics.messagesTotal tenantId label < 2 ^ 53)
    (tenantId : TenantId) : sumMetricForTenant exposition.text "realtime_engine_messages_total" tenantId =
      ((exposition.children.filter fun child => child.1 = tenantId).map fun child =>
        metrics.messagesTotal child.1 child.2).sum % 2 ^ 64 := by
  rw [sumMetricForTenant, lines_text labelled]
  congr 1
  apply sum_scan exposition.order
  · rintro ⟨owner, label⟩ child
    obtain ⟨opcode, rfl⟩ := labelled owner label ((exposition.mem_children _).mp child)
    exact samples_iff (named_sampleLine _ _ _) (by decide) (label_messageLine tenantId owner opcode)
  · intro line member
    rcases List.mem_append.mp member with limited | other
    · obtain ⟨owner, _, rfl⟩ := List.mem_map.mp limited
      exact not_samples (named_sampleLine _ _ _) (by decide) (by decide) tenantId
    · exact not_samples_others (by decide) tenantId line other
  · intro child
    exact value_read (small _ _) _

theorem sum_limited (labelled : Labelled metrics) (small : ∀ tenantId, metrics.rateLimitedTotal tenantId < 2 ^ 53)
    (tenantId : TenantId) : sumMetricForTenant exposition.text "realtime_engine_rate_limited_total" tenantId =
      ((exposition.limited.filter fun owner => owner = tenantId).map metrics.rateLimitedTotal).sum % 2 ^ 64 := by
  have order : exposition.written.Perm (exposition.limited.map (limitedLine metrics) ++
      (exposition.children.map (messageLine metrics) ++ exposition.others)) := by
    refine exposition.order.trans ?_
    rw [← List.append_assoc, ← List.append_assoc]
    exact List.perm_append_comm.append_right _
  rw [sumMetricForTenant, lines_text labelled]
  congr 1
  apply sum_scan order
  · intro owner _
    exact samples_iff (named_sampleLine _ _ _) (by decide) (label_limitedLine tenantId owner)
  · intro line member
    rcases List.mem_append.mp member with message | other
    · obtain ⟨owner, _, rfl⟩ := List.mem_map.mp message
      exact not_samples (named_sampleLine _ _ _) (by decide) (by decide) tenantId
    · exact not_samples_others (by decide) tenantId line other
  · intro owner
    exact value_read (small _) _

theorem messages_read {frames : List (TenantId × String)} (labelled : Labelled metrics)
    (counts : ∀ tenantId label, metrics.messagesTotal tenantId label = frames.count (tenantId, label))
    (few : frames.length < 2 ^ 53) (tenantId : TenantId) :
    sumMetricForTenant exposition.text "realtime_engine_messages_total" tenantId =
      frames.countP fun counted => counted.1 = tenantId := by
  have values : (fun child : TenantId × String => metrics.messagesTotal child.1 child.2) = frames.count := by
    funext child
    exact counts child.1 child.2
  have mem : ∀ child, child ∈ exposition.children ↔ frames.count child ≠ 0 := by
    intro child
    rw [exposition.mem_children, counts]
  have total := sum_counts exposition.childrenDistinct mem fun child => decide (child.1 = tenantId)
  rw [sum_messages labelled fun tenant label => (counts tenant label).trans_lt (List.count_le_length.trans_lt few),
    values, total, Nat.mod_eq_of_lt]
  exact (List.countP_le_length.trans_lt few).trans (by decide)

theorem limited_read {refusals : List TenantId} (labelled : Labelled metrics)
    (counts : ∀ tenantId, metrics.rateLimitedTotal tenantId = refusals.count tenantId)
    (few : refusals.length < 2 ^ 53) (tenantId : TenantId) :
    sumMetricForTenant exposition.text "realtime_engine_rate_limited_total" tenantId = refusals.count tenantId := by
  have values : metrics.rateLimitedTotal = refusals.count := funext counts
  have mem : ∀ owner, owner ∈ exposition.limited ↔ refusals.count owner ≠ 0 := by
    intro owner
    rw [exposition.mem_limited, counts]
  have total := sum_counts exposition.limitedDistinct mem fun owner => decide (owner = tenantId)
  rw [sum_limited labelled fun tenant => (counts tenant).trans_lt (List.count_le_length.trans_lt few),
    values, total, Nat.mod_eq_of_lt]
  · apply List.countP_congr
    intro owner _
    simp
  · exact (List.countP_le_length.trans_lt few).trans (by decide)

end

section
variable {env : Env} {config : RateLimitConfig} {timeout : Nat} {hasRedis hasWebPush : Bool}
  {server server' : Server} {es : List Event}

theorem opcode_of_handled {l : Ledger} {e : Event} {counted : TenantId × String} (seen : handled env l e = some counted) :
    ∃ opcode : Opcode, counted.2 = opcode.label := by
  cases e with
  | inbound s bytes now =>
      simp only [handled] at seen
      obtain ⟨frame, _, named⟩ := Option.bind_eq_some_iff.mp seen
      split at named
      · cases named
        exact ⟨frame.opcode, rfl⟩
      · cases named
  | http request now =>
      simp only [handled] at seen
      split at seen
      · cases seen
        exact ⟨.publish, rfl⟩
      · cases seen
  | _ => cases seen

structure Recorded (env : Env) (hasWebPush : Bool) (first : Server) (es : List Event) (server : Server) : Prop where
  tallied : Tallied (handledFrames env first es) (refusedFrames env first es) server.ledger
  labelled : ∀ counted ∈ handledFrames env first es, ∃ opcode : Opcode, counted.2 = opcode.label
  accounts : Accounts hasWebPush (notices env first es) server.ctx.pushSide
  registered : Registered server.ctx.presence server.users
  enrolled : ∀ tenantId s, EnrolledAs server.ctx.presence s tenantId ↔
    (step env).SinceAt (Enrols env tenantId s) (Withdraws env tenantId s) first es

theorem recorded (reached : (step env).run (start config timeout hasRedis hasWebPush) es = some server) :
    Recorded env hasWebPush (start config timeout hasRedis hasWebPush) es server := by
  refine Step.run_induction (fun es (server : Server) =>
    Recorded env hasWebPush (start config timeout hasRedis hasWebPush) es server) ?_ ?_ reached
  · constructor
    · constructor
      · intro tenantId label
        rfl
      · intro tenantId
        rfl
    · intro counted member
      cases member
    · exact accounts_start config timeout hasRedis hasWebPush
    · exact registered_start config timeout hasRedis hasWebPush
    · intro tenantId s
      refine iff_of_false ?_ (Step.not_sinceAt_nil _ _ _ _)
      rintro ⟨entry, found, _⟩
      cases found
  · intro es server e server' before holds taken
    have frames : handledFrames env (start config timeout hasRedis hasWebPush) (es ++ [e]) =
        handledFrames env (start config timeout hasRedis hasWebPush) es ++ (handled env server.ledger e).toList :=
      Step.observed_concat _ e before
    have refusals : refusedFrames env (start config timeout hasRedis hasWebPush) (es ++ [e]) =
        refusedFrames env (start config timeout hasRedis hasWebPush) es ++ (refused server.ledger e).toList :=
      Step.observed_concat _ e before
    constructor
    · rw [frames, refusals]
      exact tallied_step holds.tallied (step_ledger taken)
    · intro counted member
      rw [frames, List.mem_append, Option.mem_toList] at member
      exact member.elim (holds.labelled counted) opcode_of_handled
    · rw [notices, Step.observed_concat (notice env) e before]
      exact accounts_step holds.accounts taken
    · exact registered_step server e server' holds.registered taken
    · intro tenantId s
      rw [Step.sinceAt_concat before, ← holds.enrolled tenantId s]
      exact enrolled_step holds.registered taken tenantId s

theorem sessions_listed (presence : PresenceService) (tenantId : TenantId) :
    ∃ sessions : List SessionId, sessions.Nodup ∧ (∀ s, s ∈ sessions ↔ EnrolledAs presence s tenantId) ∧
      (presence.listSessions tenantId).length = sessions.length := by
  let own := presence.sessions.entries.filter fun e => e.2.tenantId = tenantId
  refine ⟨own.map Sigma.fst, ?_, ?_, ?_⟩
  · have keys : own.Sublist presence.sessions.entries := List.filter_sublist
    exact presence.sessions.nodupKeys.sublist keys
  · intro s
    constructor
    · intro member
      obtain ⟨⟨s, entry⟩, kept, rfl⟩ := List.mem_map.mp member
      obtain ⟨there, tenant⟩ := List.mem_filter.mp kept
      exact ⟨entry, AList.mem_lookup_iff.mpr there, of_decide_eq_true tenant⟩
    · rintro ⟨entry, found, tenant⟩
      refine List.mem_map.mpr ⟨⟨s, entry⟩, List.mem_filter.mpr ⟨AList.mem_lookup_iff.mp found, ?_⟩, rfl⟩
      exact decide_eq_true tenant
  · rw [PresenceService.listSessions, List.filter_map, List.length_map, List.length_map]
    rfl

end

section
variable {env : Env} {config : RateLimitConfig} {timeout : Nat} {hasRedis hasWebPush : Bool} {portal : Portal}
  {es : List InstanceEvent}

/-- The overview that a tenant is shown after a run counts the run's own events of the tenant: the sessions
signed in as it, its frames, and its notices as far as their tasks have written them. -/
theorem overview_counts
    (reached : (Portal.step env).run { server := start config timeout hasRedis hasWebPush } es = some portal)
    (fits : es.length < 2 ^ 53) (exposition : Exposition portal.server.ctx.metrics) (tenantId : TenantId) :
    (∃ sessions : List SessionId, sessions.Nodup ∧
      (∀ s, s ∈ sessions ↔ (step env).SinceAt (Enrols env tenantId s) (Withdraws env tenantId s)
        (start config timeout hasRedis hasWebPush) (es.filterMap InstanceEvent.server?)) ∧
      getOverview exposition.text portal.server.ctx.presence portal.notifications tenantId = {
        tenantId := tenantId
        activeSessions := sessions.length
        messagesTotal := (handledFrames env (start config timeout hasRedis hasWebPush)
          (es.filterMap InstanceEvent.server?)).countP fun counted => counted.1 = tenantId
        rateLimitedTotal := (refusedFrames env (start config timeout hasRedis hasWebPush)
          (es.filterMap InstanceEvent.server?)).count tenantId
        realtimeMessagesTotal := portal.notifications.contents.countP
          fun n => n.tenantId = tenantId && n.delivery = .realtime
        pushMessagesTotal := portal.notifications.contents.countP
          fun n => n.tenantId = tenantId && n.delivery = .push }) ∧
    (portal.notifications.contents ++ portal.spawned ++
      failures env (start config timeout hasRedis hasWebPush) es).Perm
        (notices env (start config timeout hasRedis hasWebPush) (es.filterMap InstanceEvent.server?)) := by
  have holds := recorded (Portal.run_server reached)
  have settled := settled_run reached
  obtain ⟨sessions, apart, listed, counted⟩ := sessions_listed portal.server.ctx.presence tenantId
  have messages := holds.tallied.messages
  have limited := holds.tallied.limited
  have labelled : Labelled portal.server.ctx.metrics := by
    intro tenant label touched
    rw [show portal.server.ctx.metrics.messagesTotal tenant label = _ from messages tenant label,
      ← Nat.pos_iff_ne_zero, List.count_pos_iff] at touched
    exact holds.labelled _ touched
  have few : ∀ {ω : Type} (observe : Server → Event → Option ω), (Step.observed (step env) observe
      (start config timeout hasRedis hasWebPush) (es.filterMap InstanceEvent.server?)).length < 2 ^ 53 :=
    fun observe => ((Step.length_observed_le _ observe _ _).trans (List.length_filterMap_le _ _)).trans_lt fits
  refine ⟨⟨sessions, apart, fun s => (listed s).trans (holds.enrolled tenantId s), ?_⟩, settled.keeps.each⟩
  have deliveries := NotificationRepository.countByDelivery_eq settled.keeps.labelled tenantId
  rw [getOverview, deliveries, OverviewResponseDto.mk.injEq]
  refine ⟨rfl, counted, ?_, ?_, rfl, rfl⟩
  · exact messages_read labelled messages (few _) tenantId
  · exact limited_read labelled limited (few _) tenantId

end

section Sample
open SampleToken Sample ClusterRouting

def described (name text kind : String) : List (List Char) := [
  "# HELP ".toList ++ name.toList ++ ' ' :: text.toList,
  "# TYPE ".toList ++ name.toList ++ ' ' :: kind.toList]

def latencyBucket (opcode bound : String) : List Char :=
  sampleLine "realtime_engine_frame_processing_seconds_bucket" [("opcode", opcode.toList), ("le", bound.toList)] ['1']

/-- One frame of the opcode was handled, in 20 microseconds. -/
def latency (opcode : String) : List (List Char) :=
  ["0.00005", "0.0001", "0.00025", "0.0005", "0.001", "0.0025", "0.005", "0.01", "0.025", "0.05", "0.1", "+Inf"].map
    (latencyBucket opcode) ++
  [sampleLine "realtime_engine_frame_processing_seconds_sum" [("opcode", opcode.toList)] "0.00002".toList,
    sampleLine "realtime_engine_frame_processing_seconds_count" [("opcode", opcode.toList)] ['1']]

def linesAboveMessages : List (List Char) :=
  described "realtime_engine_frame_processing_seconds" "Server-side frame processing latency (parsing + business logic, excluding network I/O)" "histogram" ++
  latency "AUTH" ++ latency "PUB" ++
  described "realtime_engine_messages_total" "Total number of successfully processed frames" "counter"

def linesBelowMessages : List (List Char) :=
  described "realtime_engine_push_fallback_total" "Number of notifications switched to the FCM push fallback (no active socket subscriber)" "counter" ++
  [sampleLine "realtime_engine_push_fallback_total" [("tenant_id", tenantOne.toText)] ['1']] ++
  described "realtime_engine_tcp_connections_active" "Number of currently open raw TCP connections" "gauge" ++
  [sampleLine "realtime_engine_tcp_connections_active" [] ['0']] ++
  described "realtime_engine_ws_connections_active" "Number of currently open WebSocket connections" "gauge" ++
  [sampleLine "realtime_engine_ws_connections_active" [] ['1']]

/-- Alice signs in, a message is published that nobody hears, and its notification is written. -/
def visit : List InstanceEvent :=
  signInEvents.map .at ++ [.at (.http greeting epoch), .insert 0 sessionOne morning]

def visited : Portal where
  server := greeted (signedIn false)
  notifications := NotificationRepository.insert sessionOne
    ((signedIn false).ctx.notificationOf greetingParsed ⟨tenantOne, "room"⟩) morning {}

def countedFrames : List (TenantId × String) := [(tenantOne, "AUTH"), (tenantOne, "PUB")]

theorem clientPublish_signedIn : clientPublish env (signedIn false) (.http greeting epoch) =
    some (greetingParsed, ⟨tenantOne, "room"⟩) := by
  have text : publishedText env greeting epoch (signedIn false).ctx = some "hi" := by decide +kernel
  exact clientPublish_of_http text (FrameBuilder.parse_build _ _)

theorem server?_visit : visit.filterMap InstanceEvent.server? = signInEvents ++ [.http greeting epoch] := rfl

theorem handled_built {l : Ledger} {s : SessionId} {b : FrameBuilder} {now : Clock}
    (channelFits : (utf8 b.channelId).length ≤ lenChannel) (payloadFits : (utf8 b.payload).length ≤ lenPayload)
    (allowed : (l.rateLimiter.check s b.tenantId now.instant).1 = true) :
    handled env l (.inbound s b.build.toList now) = some (b.tenantId, b.opcode.label) := by
  have parsed : Frame.parseSlice b.build.toList = .ok (b.frame channelFits payloadFits) :=
    Frame.parseSlice_raw (b.frame channelFits payloadFits)
  simp only [handled, parsed, Except.toOption, Option.bind_some]
  exact if_pos allowed

theorem refused_built {l : Ledger} {s : SessionId} {b : FrameBuilder} {now : Clock}
    (channelFits : (utf8 b.channelId).length ≤ lenChannel) (payloadFits : (utf8 b.payload).length ≤ lenPayload)
    (allowed : (l.rateLimiter.check s b.tenantId now.instant).1 = true) :
    refused l (.inbound s b.build.toList now) = none := by
  have parsed : Frame.parseSlice b.build.toList = .ok (b.frame channelFits payloadFits) :=
    Frame.parseSlice_raw (b.frame channelFits payloadFits)
  simp only [refused, parsed, Except.toOption, Option.bind_some]
  exact if_pos allowed

theorem allowed_connected : ((connected sessionOne (registered false)).ledger.rateLimiter.check sessionOne
    alice.authFrame.tenantId epoch.instant).1 = true := by
  show ((connected sessionOne (registered false)).ctx.rateLimiter.check sessionOne tenantOne epoch.instant).1 = true
  decide +kernel

theorem observed_signIn {ω : Type} (observe : Server → Event → Option ω)
    (registers : ∀ server, observe server (.admin (.registerTenant tenantOne secret)) = none)
    (connects : ∀ server, observe server (.connect sessionOne .webSocket) = none) :
    (step env).observed observe (started false) signInEvents =
      (observe (connected sessionOne (registered false))
        (.inbound sessionOne alice.authFrame.build.toList epoch)).toList := by
  have connecting : step env (registered false) (.connect sessionOne .webSocket) = _ := step_connected rfl
  simp [signInEvents, Step.observed, step_registered, connecting, step_signedIn, registers, connects]

theorem frames_visit : handledFrames env (started false) (signInEvents ++ [.http greeting epoch]) = countedFrames := by
  have first : handled env (connected sessionOne (registered false)).ledger
      (.inbound sessionOne alice.authFrame.build.toList epoch) = some (tenantOne, "AUTH") :=
    handled_built alice.channel_fits (text_fits alice (by simp [all])) allowed_connected
  have admissible : greeting.admissible env.codec (signedIn false).ledger.auth epoch.unixSecs = true := by
    decide
  have allowed : ((signedIn false).ledger.rateLimiter.checkTenant tenantOne epoch.instant).1 = true := by
    decide +kernel
  have builds : Ledger.builds greeting = true := by
    have parsed : Frame.parse (greeting.builder "hi").build = .ok greetingParsed := FrameBuilder.parse_build _ _
    have unfolded : ∀ request : HttpRequest, Ledger.builds request =
        request.text.any fun payload => (Frame.parse (request.builder payload).build).toOption.isSome := fun _ => rfl
    rw [unfolded, show greeting.text = some "hi" from rfl, Option.any_some, parsed]
    rfl
  have second : handled env (signedIn false).ledger (.http greeting epoch) = some (tenantOne, "PUB") :=
    if_pos ⟨admissible, allowed, builds⟩
  rw [handledFrames, Step.observed_concat _ _ (run_signedIn false), second,
    observed_signIn _ (fun _ => rfl) fun _ => rfl, first]
  rfl

theorem refused_visit : refusedFrames env (started false) (signInEvents ++ [.http greeting epoch]) = [] := by
  have first : refused (connected sessionOne (registered false)).ledger
      (.inbound sessionOne alice.authFrame.build.toList epoch) = none :=
    refused_built alice.channel_fits (text_fits alice (by simp [all])) allowed_connected
  rw [refusedFrames, Step.observed_concat _ _ (run_signedIn false),
    observed_signIn _ (fun _ => rfl) fun _ => rfl, first]
  rfl

theorem spawnedBy_nil {server server' : Server} {e : Event} {log : List Notification}
    (accounts : Accounts false log server.ctx.pushSide) (taken : step env server e = some server')
    (nothing : clientPublish env server e = none) : Portal.spawnedBy server server' = [] := by
  rw [spawnedBy_eq accounts taken, notice_eq, nothing]
  rfl

theorem clientPublish_unauthenticated {server : Server} {s : SessionId} {c : Connection}
    (ready : server.waiting s = some c) (unknown : c.authenticatedTenant = none) (bytes : List UInt8) (now : Clock) :
    clientPublish env server (.inbound s bytes now) = none := by
  simp only [clientPublish, ready, Option.bind_some, unknown]
  cases handledFrame server s bytes now with
  | none => rfl
  | some frame => rfl

theorem writes_greeting (server : Server) (n : Notification) :
    (Portal.step env).run { server := server, spawned := [] ++ [n] } [.insert 0 sessionOne morning] =
      some { server := server, notifications := NotificationRepository.insert sessionOne n morning {} } := rfl

theorem run_visit : (Portal.step env).run { server := started false } visit = some visited := by
  have registers := step_registered false
  have connects : step env (registered false) (.connect sessionOne .webSocket) = _ := step_connected rfl
  have signsIn := step_signedIn false
  have fresh : Accounts false [] (started false).ctx.pushSide := accounts_start _ _ _ _
  have afterRegister := accounts_step fresh registers
  have afterConnect := accounts_step afterRegister connects
  have afterSignIn := accounts_step afterConnect signsIn
  have registering := spawnedBy_nil fresh registers rfl
  have connecting := spawnedBy_nil afterRegister connects rfl
  have signingIn := spawnedBy_nil afterConnect signsIn (clientPublish_unauthenticated (waiting_set rfl rfl) rfl _ _)
  have publishing := spawned_greeted afterSignIn clientPublish_signedIn
  refine Step.run_cons_iff.mpr ⟨_, Portal.step_at registers registering {}, ?_⟩
  refine Step.run_cons_iff.mpr ⟨_, Portal.step_at connects connecting {}, ?_⟩
  refine Step.run_cons_iff.mpr ⟨_, Portal.step_at signsIn signingIn {}, ?_⟩
  exact Step.run_cons_iff.mpr ⟨_, Portal.step_at (step_greeting _) publishing {}, writes_greeting _ _⟩

def isForeign (line : List Char) : Bool :=
  !line.contains '\n' && line.getLast? != some '\r' &&
    (line.head? == some '#' || otherMetrics.any fun name => name.toList.isPrefixOf line)

set_option maxRecDepth 10000 in
theorem isForeign_others : (linesAboveMessages ++ linesBelowMessages).all isForeign = true := by decide +kernel

theorem foreign_others : ∀ line ∈ linesAboveMessages ++ linesBelowMessages,
    ('\n' ∉ line ∧ line.getLast? ≠ some '\r') ∧
      (line.head? = some '#' ∨ ∃ name ∈ otherMetrics, name.toList <+: line) := by
  intro line member
  have checked := List.all_eq_true.mp isForeign_others line member
  simpa [isForeign, List.isPrefixOf_iff_prefix] using checked

def exposed (metrics : MetricsService)
    (messages : ∀ tenantId label, metrics.messagesTotal tenantId label = countedFrames.count (tenantId, label))
    (limited : ∀ tenantId, metrics.rateLimitedTotal tenantId = 0) : Exposition metrics where
  written := linesAboveMessages ++ (countedFrames.map (messageLine metrics) ++ linesBelowMessages)
  children := countedFrames
  limited := []
  others := linesAboveMessages ++ linesBelowMessages
  order := List.perm_append_comm_assoc _ _ _
  childrenDistinct := by decide
  mem_children := by
    intro child
    rw [messages, ← Nat.pos_iff_ne_zero, List.count_pos_iff]
  limitedDistinct := List.nodup_nil
  mem_limited := by
    intro tenantId
    simp [limited]
  single := fun line member => (foreign_others line member).1
  foreign := fun line member => (foreign_others line member).2

theorem overview_counts_visit : ∃ (portal : Portal) (exposition : Exposition portal.server.ctx.metrics),
    (Portal.step env).run { server := started false } visit = some portal ∧
      portal.notifications.contents.length = 1 ∧ exposition.children = countedFrames ∧
      (∃ sessions : List SessionId, sessions.Nodup ∧
        (∀ s, s ∈ sessions ↔ (step env).SinceAt (Enrols env tenantOne s) (Withdraws env tenantOne s)
          (started false) (visit.filterMap InstanceEvent.server?)) ∧
        getOverview exposition.text portal.server.ctx.presence portal.notifications tenantOne = {
          tenantId := tenantOne
          activeSessions := sessions.length
          messagesTotal := (handledFrames env (started false) (visit.filterMap InstanceEvent.server?)).countP
            fun counted => counted.1 = tenantOne
          rateLimitedTotal := (refusedFrames env (started false) (visit.filterMap InstanceEvent.server?)).count tenantOne
          realtimeMessagesTotal := portal.notifications.contents.countP
            fun n => n.tenantId = tenantOne && n.delivery = .realtime
          pushMessagesTotal := portal.notifications.contents.countP
            fun n => n.tenantId = tenantOne && n.delivery = .push }) ∧
      (portal.notifications.contents ++ portal.spawned ++ failures env (started false) visit).Perm
        (notices env (started false) (visit.filterMap InstanceEvent.server?)) := by
  have stored : visited.notifications.contents = [] ++ [_] :=
    NotificationRepository.contents_insert List.not_mem_nil _ _
  obtain ⟨portal, reached, written⟩ : ∃ portal : Portal,
      (Portal.step env).run { server := started false } visit = some portal ∧
        portal.notifications.contents.length = 1 := ⟨visited, run_visit, congrArg List.length stored⟩
  have ran := Portal.run_server reached
  have holds : Recorded env false (started false) (visit.filterMap InstanceEvent.server?) portal.server :=
    recorded ran
  have messages := holds.tallied.messages
  rw [server?_visit, frames_visit] at messages
  have limited := holds.tallied.limited
  rw [server?_visit, refused_visit] at limited
  have few : visit.length < 2 ^ 53 := by
    show 5 < 2 ^ 53
    norm_num
  have counts := overview_counts reached few (exposed _ messages limited) tenantOne
  exact ⟨portal, exposed _ messages limited, reached, written, rfl, counts⟩

end Sample

end RealtimePlatform.Proof.TenantOverview
