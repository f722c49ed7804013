import Mathlib.Data.List.Induction
import Mathlib.Data.Option.Basic

namespace RealtimePlatform.Library

/-- A guarded deterministic system: `none` where the event cannot happen in the state. -/
abbrev Step (σ ε : Type*) := σ → ε → Option σ

namespace Step
variable {σ ε : Type*}

def run (step : Step σ ε) : σ → List ε → Option σ
  | s, [] => some s
  | s, e :: es => (step s e).bind fun t => run step t es

@[simp] theorem run_nil (step : Step σ ε) (s : σ) : step.run s [] = some s := rfl

theorem run_cons_iff {step : Step σ ε} {s u : σ} {e : ε} {es : List ε} :
    step.run s (e :: es) = some u ↔ ∃ t, step s e = some t ∧ step.run t es = some u := by
  simp [run, Option.bind_eq_some_iff]

theorem run_append_iff {step : Step σ ε} {s u : σ} {es ds : List ε} :
    step.run s (es ++ ds) = some u ↔ ∃ t, step.run s es = some t ∧ step.run t ds = some u := by
  induction es generalizing s with
  | nil => simp
  | cons e es ih =>
      rw [List.cons_append, run_cons_iff]
      constructor
      · rintro ⟨t, first, rest⟩
        obtain ⟨v, before, after⟩ := ih.mp rest
        exact ⟨v, run_cons_iff.mpr ⟨t, first, before⟩, after⟩
      · rintro ⟨v, before, after⟩
        obtain ⟨t, first, rest⟩ := run_cons_iff.mp before
        exact ⟨t, first, ih.mpr ⟨v, rest, after⟩⟩

theorem run_concat_iff {step : Step σ ε} {s u : σ} {es : List ε} {e : ε} :
    step.run s (es ++ [e]) = some u ↔ ∃ t, step.run s es = some t ∧ step t e = some u := by
  rw [run_append_iff]
  simp [run_cons_iff]

/-- What holds of the empty run and is kept by one more step holds of every run. -/
theorem run_induction {step : Step σ ε} {s : σ} (J : List ε → σ → Prop) (start : J [] s)
    (next : ∀ es t e u, step.run s es = some t → J es t → step t e = some u → J (es ++ [e]) u)
    {es : List ε} {t : σ} (reached : step.run s es = some t) : J es t := by
  induction es using List.reverseRecOn generalizing t with
  | nil =>
      rw [run_nil, Option.some.injEq] at reached
      exact reached ▸ start
  | append_singleton es e ih =>
      obtain ⟨u, before, last⟩ := run_concat_iff.mp reached
      exact next es u e t before (ih before) last

theorem run_invariant {step : Step σ ε} {I : σ → Prop}
    (keep : ∀ s e t, I s → step s e = some t → I t)
    {s t : σ} {es : List ε} (reached : step.run s es = some t) (start : I s) : I t :=
  run_induction (fun _ u => I u) start (fun _ u e v _ held taken => keep u e v held taken) reached

/-- Every step of the run is taken in a state and by an event that satisfy `cond`. -/
def Meets (step : Step σ ε) (cond : σ → ε → Prop) : σ → List ε → Prop
  | _, [] => True
  | s, e :: es => cond s e ∧ ∀ t, step s e = some t → Meets step cond t es

theorem meets_cons {step : Step σ ε} {cond : σ → ε → Prop} {s t : σ} {e : ε} {es : List ε}
    (now : cond s e) (first : step s e = some t) (later : step.Meets cond t es) :
    step.Meets cond s (e :: es) :=
  ⟨now, fun _ other => Option.some.inj (first.symm.trans other) ▸ later⟩

theorem meets_cons_iff {step : Step σ ε} {cond : σ → ε → Prop} {s t : σ} {e : ε} {es : List ε}
    (first : step s e = some t) : step.Meets cond s (e :: es) ↔ cond s e ∧ step.Meets cond t es := by
  simp only [Meets, first, Option.some.injEq, forall_eq']

theorem meets_append {step : Step σ ε} {cond : σ → ε → Prop} {s t : σ} {es ds : List ε}
    (reached : step.run s es = some t) :
    step.Meets cond s (es ++ ds) ↔ step.Meets cond s es ∧ step.Meets cond t ds := by
  induction es generalizing s with
  | nil =>
      rw [run_nil, Option.some.injEq] at reached
      simp [Meets, reached]
  | cons e es ih =>
      obtain ⟨u, first, rest⟩ := run_cons_iff.mp reached
      simp only [List.cons_append, Meets, first, Option.some.injEq, forall_eq', ih rest, and_assoc]

theorem meets_concat {step : Step σ ε} {cond : σ → ε → Prop} {s t : σ} {es : List ε} {e : ε}
    (reached : step.run s es = some t) :
    step.Meets cond s (es ++ [e]) ↔ step.Meets cond s es ∧ cond t e := by
  rw [meets_append reached]
  simp [Meets]

theorem meets_iff_prefixes {step : Step σ ε} {cond : σ → ε → Prop} {s : σ} {es : List ε} :
    step.Meets cond s es ↔ ∀ ds e t, ds ++ [e] <+: es → step.run s ds = some t → cond t e := by
  induction es generalizing s with
  | nil =>
      refine ⟨fun _ ds e t short => ?_, fun _ => trivial⟩
      simp at short
  | cons e es ih =>
      constructor
      · rintro ⟨now, later⟩ ds d t short reached
        cases ds with
        | nil =>
            rw [run_nil, Option.some.injEq] at reached
            obtain ⟨rfl, _⟩ := List.cons_prefix_cons.mp short
            exact reached ▸ now
        | cons c ds =>
            obtain ⟨rfl, shorter⟩ := List.cons_prefix_cons.mp short
            obtain ⟨u, first, rest⟩ := run_cons_iff.mp reached
            exact ih.mp (later u first) ds d t shorter rest
      · intro every
        refine ⟨every [] e s (by simp) rfl, fun t first => ih.mpr ?_⟩
        intro ds d u short reached
        exact every (e :: ds) d u (List.cons_prefix_cons.mpr ⟨rfl, short⟩)
          (run_cons_iff.mpr ⟨t, first, reached⟩)

theorem meets_and {step : Step σ ε} {P Q : σ → ε → Prop} {s : σ} {es : List ε} :
    step.Meets (fun t e => P t e ∧ Q t e) s es ↔ step.Meets P s es ∧ step.Meets Q s es := by
  simp only [meets_iff_prefixes]
  constructor
  · intro both
    exact ⟨fun ds e t short reached => (both ds e t short reached).1,
      fun ds e t short reached => (both ds e t short reached).2⟩
  · rintro ⟨first, second⟩ ds e t short reached
    exact ⟨first ds e t short reached, second ds e t short reached⟩

theorem meets_of_forall {step : Step σ ε} {cond : σ → ε → Prop} {es : List ε}
    (all : ∀ e ∈ es, ∀ s, cond s e) (s : σ) : step.Meets cond s es := by
  induction es generalizing s with
  | nil => trivial
  | cons e es ih =>
      refine ⟨all e List.mem_cons_self s, fun t _ => ih (fun d member => ?_) t⟩
      exact all d (List.mem_cons_of_mem e member)

theorem run_invariant_of_meets {step : Step σ ε} {I : σ → Prop} {cond : σ → ε → Prop}
    (keep : ∀ s e t, I s → cond s e → step s e = some t → I t)
    {s t : σ} {es : List ε} (reached : step.run s es = some t) (start : I s)
    (meets : step.Meets cond s es) : I t := by
  refine run_induction (fun es u => step.Meets cond s es → I u) (fun _ => start) ?_ reached meets
  intro ds u e v before held taken met
  obtain ⟨earlier, now⟩ := (meets_concat before).mp met
  exact keep u e v (held earlier) now taken

/-- `P` holds in every state of the run, the first and the last included. -/
def Throughout (step : Step σ ε) (P : σ → Prop) : σ → List ε → Prop
  | s, [] => P s
  | s, e :: es => P s ∧ ∀ t, step s e = some t → Throughout step P t es

theorem Throughout.start {step : Step σ ε} {P : σ → Prop} {s : σ} {es : List ε}
    (held : step.Throughout P s es) : P s := by
  cases es with
  | nil => exact held
  | cons e es => exact held.1

theorem throughout_append {step : Step σ ε} {P : σ → Prop} {s t : σ} {es ds : List ε}
    (reached : step.run s es = some t) :
    step.Throughout P s (es ++ ds) ↔ step.Throughout P s es ∧ step.Throughout P t ds := by
  induction es generalizing s with
  | nil =>
      rw [run_nil, Option.some.injEq] at reached
      subst reached
      exact ⟨fun held => ⟨held.start, held⟩, And.right⟩
  | cons e es ih =>
      obtain ⟨u, first, rest⟩ := run_cons_iff.mp reached
      simp only [List.cons_append, Throughout, first, Option.some.injEq, forall_eq', ih rest, and_assoc]

theorem throughout_iff_prefixes {step : Step σ ε} {P : σ → Prop} {s : σ} {es : List ε} :
    step.Throughout P s es ↔ ∀ ds t, ds <+: es → step.run s ds = some t → P t := by
  induction es generalizing s with
  | nil =>
      constructor
      · rintro held ds t short reached
        rw [List.prefix_nil.mp short, run_nil, Option.some.injEq] at reached
        exact reached ▸ held
      · intro every
        exact every [] s List.prefix_rfl rfl
  | cons e es ih =>
      constructor
      · rintro ⟨now, later⟩ ds t short reached
        cases ds with
        | nil =>
            rw [run_nil, Option.some.injEq] at reached
            exact reached ▸ now
        | cons d ds =>
            obtain ⟨rfl, shorter⟩ := List.cons_prefix_cons.mp short
            obtain ⟨u, first, rest⟩ := run_cons_iff.mp reached
            exact ih.mp (later u first) ds t shorter rest
      · intro every
        refine ⟨every [] s List.nil_prefix rfl, fun t first => ih.mpr ?_⟩
        intro ds u short reached
        exact every (e :: ds) u (List.cons_prefix_cons.mpr ⟨rfl, short⟩)
          (run_cons_iff.mpr ⟨t, first, reached⟩)

/-- Where a step ends in `P` exactly if it meets `cond`, a run meets `cond` exactly if `P` holds
throughout it. -/
theorem meets_iff_throughout {step : Step σ ε} {I P : σ → Prop} {cond : σ → ε → Prop}
    (keep : ∀ s e t, I s → step s e = some t → I t)
    (exact : ∀ s e t, I s → P s → step s e = some t → (cond s e ↔ P t))
    {s t : σ} {es : List ε} (reached : step.run s es = some t) (sound : I s) (held : P s) :
    step.Meets cond s es ↔ step.Throughout P s es := by
  induction es generalizing s with
  | nil => exact iff_of_true trivial held
  | cons e es ih =>
      obtain ⟨u, first, rest⟩ := run_cons_iff.mp reached
      have here := exact s e u sound held first
      have there := ih rest (keep s e u sound first)
      simp only [Meets, Throughout, first, Option.some.injEq, forall_eq', held, true_and]
      constructor
      · rintro ⟨now, later⟩
        exact (there (here.mp now)).mp later
      · intro every
        exact ⟨here.mpr every.start, (there every.start).mpr every⟩

theorem throughout_of_meets {step : Step σ ε} {I P : σ → Prop} {cond : σ → ε → Prop}
    (keep : ∀ s e t, I s → cond s e → step s e = some t → I t) (holds : ∀ s, I s → P s)
    {s : σ} {es : List ε} (start : I s) (meets : step.Meets cond s es) : step.Throughout P s es := by
  induction es generalizing s with
  | nil => exact holds s start
  | cons e es ih =>
      refine ⟨holds s start, fun t first => ?_⟩
      exact ih (keep s e t start meets.1 first) (meets.2 t first)

/-- A run meets what keeps the invariant exactly if `P` holds throughout it, where no other step ends in `P`. -/
theorem meets_iff_throughout_of_kept {step : Step σ ε} {I P : σ → Prop} {cond : σ → ε → Prop}
    (keep : ∀ s e t, I s → cond s e → step s e = some t → I t) (holds : ∀ s, I s → P s)
    (needed : ∀ s e t, I s → step s e = some t → P t → cond s e)
    {s t : σ} {es : List ε} (reached : step.run s es = some t) (start : I s) :
    step.Meets cond s es ↔ step.Throughout P s es := by
  refine ⟨throughout_of_meets keep holds start, fun held => ?_⟩
  induction es generalizing s with
  | nil => trivial
  | cons e es ih =>
      obtain ⟨u, first, rest⟩ := run_cons_iff.mp reached
      have later := held.2 u first
      have now := needed s e u start first later.start
      exact meets_cons now first (ih rest (keep s e u start now first) later)

/-- At some point of the run an event was taken in a state that together satisfy `P`. -/
def Happened (step : Step σ ε) (P : σ → ε → Prop) (s : σ) (es : List ε) : Prop :=
  ∃ ds e t, ds ++ [e] <+: es ∧ step.run s ds = some t ∧ P t e

theorem Happened.mono {step : Step σ ε} {P Q : σ → ε → Prop} {s : σ} {es fs : List ε}
    (happened : step.Happened P s es) (longer : es <+: fs) (weaker : ∀ t e, P t e → Q t e) :
    step.Happened Q s fs := by
  obtain ⟨ds, e, t, short, reached, held⟩ := happened
  exact ⟨ds, e, t, short.trans longer, reached, weaker t e held⟩

theorem happened_concat {step : Step σ ε} {P : σ → ε → Prop} {s t : σ} {es : List ε} {e : ε}
    (reached : step.run s es = some t) (held : P t e) : step.Happened P s (es ++ [e]) :=
  ⟨es, e, t, List.prefix_rfl, reached, held⟩

theorem happened_concat_iff {step : Step σ ε} {P : σ → ε → Prop} {s t : σ} {es : List ε} {e : ε}
    (reached : step.run s es = some t) :
    step.Happened P s (es ++ [e]) ↔ step.Happened P s es ∨ P t e := by
  constructor
  · rintro ⟨ds, d, u, short, earlier, held⟩
    rcases List.prefix_concat_iff.mp short with whole | shorter
    · obtain ⟨rfl, same⟩ := List.append_inj' whole rfl
      rw [List.singleton_inj] at same
      obtain rfl := Option.some.inj (earlier.symm.trans reached)
      exact Or.inr (same ▸ held)
    · exact Or.inl ⟨ds, d, u, shorter, earlier, held⟩
  · rintro (happened | held)
    · exact happened.mono (List.prefix_append es [e]) fun _ _ => id
    · exact happened_concat reached held

def Since (starts ends : ε → Prop) (es : List ε) : Prop :=
  ∃ before e after, es = before ++ e :: after ∧ starts e ∧ ∀ d ∈ after, ¬ ends d

theorem not_since_nil (starts ends : ε → Prop) : ¬ Since starts ends [] := by
  rintro ⟨before, e, after, split, _⟩
  simp at split

theorem since_concat {starts ends : ε → Prop} {es : List ε} {e : ε} :
    Since starts ends (es ++ [e]) ↔ starts e ∨ Since starts ends es ∧ ¬ ends e := by
  constructor
  · rintro ⟨before, d, after, split, started, lasting⟩
    rcases List.eq_nil_or_concat after with rfl | ⟨rest, last, rfl⟩
    · obtain ⟨_, same⟩ := List.append_inj' split rfl
      rw [List.singleton_inj] at same
      exact Or.inl (same ▸ started)
    · have shape : es ++ [e] = (before ++ d :: rest) ++ [last] := by simpa using split
      obtain ⟨whole, same⟩ := List.append_inj' shape rfl
      rw [List.singleton_inj] at same
      refine Or.inr ⟨⟨before, d, rest, whole, started, fun c member => ?_⟩, ?_⟩
      · exact lasting c (by simp [member])
      · rw [same]
        exact lasting last (by simp)
  · rintro (started | ⟨⟨before, d, after, split, started, lasting⟩, stays⟩)
    · exact ⟨es, e, [], rfl, started, fun _ member => absurd member List.not_mem_nil⟩
    · refine ⟨before, d, after ++ [e], by simp [split], started, fun c member => ?_⟩
      rcases List.mem_append.mp member with early | late
      · exact lasting c early
      · rw [List.mem_singleton.mp late]
        exact stays

theorem since_filter {starts ends : ε → Prop} {p : ε → Bool} (started : ∀ e, starts e → p e = true)
    (ended : ∀ e, ends e → p e = true) (es : List ε) :
    Since starts ends (es.filter p) ↔ Since starts ends es := by
  induction es using List.reverseRecOn with
  | nil => rfl
  | append_singleton es e ih =>
      rw [List.filter_append, since_concat]
      by_cases seen : p e = true
      · rw [List.filter_cons_of_pos seen, List.filter_nil, since_concat, ih]
      · rw [List.filter_cons_of_neg seen, List.filter_nil, List.append_nil, ih]
        constructor
        · exact fun lasting => Or.inr ⟨lasting, fun stopped => seen (ended e stopped)⟩
        · rintro (now | ⟨lasting, _⟩)
          · exact absurd (started e now) seen
          · exact lasting

def SinceAt (step : Step σ ε) (starts ends : σ → ε → Prop) (s : σ) (es : List ε) : Prop :=
  ∃ before e after t, es = before ++ e :: after ∧ step.run s before = some t ∧ starts t e ∧
    ∀ mid d rest u, after = mid ++ d :: rest → step.run s (before ++ e :: mid) = some u → ¬ ends u d

theorem not_sinceAt_nil (step : Step σ ε) (starts ends : σ → ε → Prop) (s : σ) :
    ¬ step.SinceAt starts ends s [] := by
  rintro ⟨before, e, after, t, split, _⟩
  simp at split

theorem sinceAt_concat {step : Step σ ε} {starts ends : σ → ε → Prop} {s t : σ} {es : List ε} {e : ε}
    (reached : step.run s es = some t) : step.SinceAt starts ends s (es ++ [e]) ↔
      starts t e ∨ step.SinceAt starts ends s es ∧ ¬ ends t e := by
  constructor
  · rintro ⟨before, d, after, u, split, earlier, started, lasting⟩
    rcases List.eq_nil_or_concat after with rfl | ⟨rest, last, rfl⟩
    · obtain ⟨rfl, same⟩ := List.append_inj' split rfl
      rw [List.singleton_inj] at same
      rw [reached, Option.some.injEq] at earlier
      exact Or.inl (earlier ▸ same ▸ started)
    · have shape : es ++ [e] = (before ++ d :: rest) ++ [last] := by simpa using split
      obtain ⟨rfl, same⟩ := List.append_inj' shape rfl
      rw [List.singleton_inj] at same
      refine Or.inr ⟨⟨before, d, rest, u, rfl, earlier, started, ?_⟩, ?_⟩
      · intro mid c later v inside
        exact lasting mid c (later ++ [last]) v (by simp [inside])
      · rw [same]
        exact lasting rest last [] t (by simp) reached
  · rintro (started | ⟨⟨before, d, after, u, rfl, earlier, started, lasting⟩, stays⟩)
    · exact ⟨es, e, [], t, rfl, reached, started, fun mid d rest u inside => by simp at inside⟩
    · refine ⟨before, d, after ++ [e], u, by simp, earlier, started, ?_⟩
      intro mid c rest v inside passed
      rcases List.eq_nil_or_concat rest with rfl | ⟨others, last, rfl⟩
      · obtain ⟨rfl, same⟩ := List.append_inj' inside rfl
        rw [List.singleton_inj] at same
        rw [reached, Option.some.injEq] at passed
        exact passed ▸ same ▸ stays
      · have shape : after ++ [e] = (mid ++ c :: others) ++ [last] := by simpa using inside
        exact lasting mid c others v (List.append_inj' shape rfl).1 passed

section Unwinding
variable {ω : Type*}

/-- What an observer sees of a run, where `observe` gives its view of one step. -/
def observed (step : Step σ ε) (observe : σ → ε → Option ω) : σ → List ε → List ω
  | _, [] => []
  | s, e :: es => (observe s e).toList ++ (step s e).elim [] fun t => observed step observe t es

/-- A relation that a step outside the observer's view keeps on either side, and that two steps
with one view keep together. `P` is what the runs are known to satisfy throughout. -/
structure Unwinds (step : Step σ ε) (observe : σ → ε → Option ω) (P : σ → Prop)
    (R : σ → σ → Prop) : Prop where
  left : ∀ {s t e s'}, R s t → P s → P s' → observe s e = none → step s e = some s' → R s' t
  right : ∀ {s t d t'}, R s t → P t → P t' → observe t d = none → step t d = some t' → R s t'
  both : ∀ {s t e d l s' t'}, R s t → P s → P s' → P t → P t' → observe s e = some l →
    observe t d = some l → step s e = some s' → step t d = some t' → R s' t'

structure Reads {ν : Type*} (step : Step σ ε) (observe : σ → ε → Option ω) (read : σ → ε → Option ν)
    (P : σ → Prop) (R : σ → σ → Prop) : Prop where
  hidden : ∀ {s e}, observe s e = none → read s e = none
  same : ∀ {s t e d l s' t'}, R s t → P s → P t → observe s e = some l → observe t d = some l →
    step s e = some s' → step t d = some t' → read s e = read t d

section
variable {ν : Type*} {step : Step σ ε} {observe : σ → ε → Option ω} {read : σ → ε → Option ν}
  {P : σ → Prop} {R : σ → σ → Prop}

private theorem Unwinds.advance (unwinds : Unwinds step observe P R)
    (reads : Reads step observe read P R) {s t t' : σ} {ds : List ε} (related : R s t)
    (kept : step.Throughout P t ds) (reached : step.run t ds = some t') :
    (observed step observe t ds = [] → R s t' ∧ observed step read t ds = []) ∧
    ∀ l ls, observed step observe t ds = l :: ls → ∃ u d u' es, R s u ∧ P u ∧ step u d = some u' ∧
      observe u d = some l ∧ step.run u' es = some t' ∧ step.Throughout P u' es ∧
      observed step observe u' es = ls ∧
      observed step read t ds = (read u d).toList ++ observed step read u' es := by
  induction ds generalizing t with
  | nil =>
      rw [run_nil, Option.some.injEq] at reached
      subst reached
      exact ⟨fun _ => ⟨related, rfl⟩, fun l ls seen => by simp [observed] at seen⟩
  | cons d ds ih =>
      obtain ⟨u, first, rest⟩ := run_cons_iff.mp reached
      obtain ⟨now, later⟩ := kept
      have after := later u first
      cases view : observe t d with
      | none =>
          have next := ih (unwinds.right related now after.start view first) after rest
          simpa [observed, view, first, reads.hidden view] using next
      | some l =>
          refine ⟨fun seen => by simp [observed, view] at seen, fun k ls seen => ?_⟩
          simp only [observed, view, first, Option.toList_some, Option.elim_some,
            List.cons_append, List.nil_append, List.cons.injEq] at seen
          obtain ⟨rfl, same⟩ := seen
          exact ⟨t, d, u, ds, related, now, first, view, rest, after, same, by simp [observed, first]⟩

/-- Two runs that are observed alike end in related states, and alike is read off them. -/
theorem Unwinds.run_reads (unwinds : Unwinds step observe P R) (reads : Reads step observe read P R)
    {s t s' t' : σ} {es ds : List ε} (related : R s t) (keptLeft : step.Throughout P s es)
    (keptRight : step.Throughout P t ds) (reachedLeft : step.run s es = some s')
    (reachedRight : step.run t ds = some t')
    (same : observed step observe s es = observed step observe t ds) :
    R s' t' ∧ observed step read s es = observed step read t ds := by
  induction es generalizing s t ds with
  | nil =>
      rw [run_nil, Option.some.injEq] at reachedLeft
      subst reachedLeft
      obtain ⟨ends, silent⟩ := (unwinds.advance reads related keptRight reachedRight).1 same.symm
      exact ⟨ends, silent.symm⟩
  | cons e es ih =>
      obtain ⟨u, first, rest⟩ := run_cons_iff.mp reachedLeft
      obtain ⟨now, later⟩ := keptLeft
      have after := later u first
      cases view : observe s e with
      | none =>
          have seen : observed step observe u es = observed step observe t ds := by
            simpa [observed, view, first] using same
          have next := ih (unwinds.left related now after.start view first) after keptRight rest
            reachedRight seen
          simpa [observed, first, reads.hidden view] using next
      | some l =>
          have seen : observed step observe t ds = l :: observed step observe u es := by
            simpa [observed, view, first] using same.symm
          obtain ⟨v, d, v', ds', nearer, held, taken, viewed, restRight, keptAfter, equal, split⟩ :=
            (unwinds.advance reads related keptRight reachedRight).2 l _ seen
          obtain ⟨ends, alike⟩ := ih (unwinds.both nearer now after.start held keptAfter.start view
            viewed first taken) after keptAfter rest restRight equal.symm
          refine ⟨ends, ?_⟩
          have here := reads.same nearer now held view viewed first taken
          simp only [observed, first, Option.elim_some]
          rw [split, here, alike]

end

theorem observed_append {step : Step σ ε} (observe : σ → ε → Option ω) {s t : σ} {es ds : List ε}
    (reached : step.run s es = some t) : observed step observe s (es ++ ds) =
      observed step observe s es ++ observed step observe t ds := by
  induction es generalizing s with
  | nil =>
      rw [run_nil, Option.some.injEq] at reached
      rw [reached]
      rfl
  | cons e es ih =>
      obtain ⟨u, first, rest⟩ := run_cons_iff.mp reached
      simp only [List.cons_append, observed, first, Option.elim_some, ih rest, List.append_assoc]

theorem observed_concat {step : Step σ ε} (observe : σ → ε → Option ω) {s t : σ} {es : List ε} (e : ε)
    (reached : step.run s es = some t) :
    observed step observe s (es ++ [e]) = observed step observe s es ++ (observe t e).toList := by
  rw [observed_append observe reached]
  cases next : step t e <;> simp [observed, next]

theorem length_observed_le (step : Step σ ε) (observe : σ → ε → Option ω) (s : σ) (es : List ε) :
    (observed step observe s es).length ≤ es.length := by
  induction es generalizing s with
  | nil => exact Nat.le_refl _
  | cons e es ih =>
      have first : (observe s e).toList.length ≤ 1 := by cases observe s e <;> simp
      rw [observed, List.length_append, List.length_cons]
      cases step s e with
      | none =>
          rw [Option.elim_none, List.length_nil]
          omega
      | some t =>
          have rest := ih t
          rw [Option.elim_some]
          omega

theorem observed_filterMap {ν : Type*} (step : Step σ ε) (observe : σ → ε → Option ω) (g : ω → Option ν)
    (s : σ) (es : List ε) : observed step (fun t e => (observe t e).bind g) s es =
      (observed step observe s es).filterMap g := by
  induction es generalizing s with
  | nil => rfl
  | cons e es ih =>
      have first : ((observe s e).bind g).toList = (observe s e).toList.filterMap g := by
        cases observe s e with
        | none => rfl
        | some l => cases kept : g l <;> simp [kept]
      simp only [observed, List.filterMap_append, first]
      cases step s e with
      | none => rfl
      | some t => simp only [Option.elim_some, ih]

/-- A view that depends on the events alone sees the ones it lets through. -/
theorem observed_eq_filter {step : Step σ ε} {p : ε → Bool} {s t : σ} {es : List ε}
    (reached : step.run s es = some t) :
    observed step (fun _ e => if p e then some e else none) s es = es.filter p := by
  induction es generalizing s with
  | nil => rfl
  | cons e es ih =>
      obtain ⟨u, first, rest⟩ := run_cons_iff.mp reached
      simp only [observed, first, Option.elim_some, ih rest, List.filter_cons]
      split <;> rfl

theorem throughout_true (step : Step σ ε) (s : σ) (es : List ε) :
    step.Throughout (fun _ => True) s es := by
  induction es generalizing s with
  | nil => trivial
  | cons e es ih => exact ⟨trivial, fun t _ => ih t⟩

section Along
variable {τ : Type*} {step : Step σ ε} {machine : Step τ ε} {f : σ → τ}

theorem run_map {s s' : σ} {es : List ε} (along : ∀ e ∈ es, ∀ s s', step s e = some s' →
    machine (f s) e = some (f s')) (reached : step.run s es = some s') :
    machine.run (f s) es = some (f s') := by
  induction es generalizing s with
  | nil =>
      rw [run_nil, Option.some.injEq] at reached
      rw [run_nil, reached]
  | cons e es ih =>
      obtain ⟨u, first, rest⟩ := run_cons_iff.mp reached
      have others := fun d member => along d (List.mem_cons_of_mem e member)
      exact run_cons_iff.mpr ⟨f u, along e List.mem_cons_self s u first, ih others rest⟩

theorem observed_map {s s' : σ} {es : List ε} (observe : τ → ε → Option ω)
    (along : ∀ e ∈ es, ∀ s s', step s e = some s' → machine (f s) e = some (f s'))
    (reached : step.run s es = some s') :
    observed step (fun s e => observe (f s) e) s es = observed machine observe (f s) es := by
  induction es generalizing s with
  | nil => rfl
  | cons e es ih =>
      obtain ⟨u, first, rest⟩ := run_cons_iff.mp reached
      have others := fun d member => along d (List.mem_cons_of_mem e member)
      simp only [observed, first, along e List.mem_cons_self s u first, Option.elim_some,
        ih others rest]

end Along

end Unwinding

end Step
end RealtimePlatform.Library
