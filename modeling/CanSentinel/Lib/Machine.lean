import Mathlib

/-!
# Stateful steps and their runs

A stateful component is a step `σ → ι → β × σ`: a method that reads the state
and an argument, returns a result and leaves a new state. A run feeds it a list
of arguments.

- `outputs`, `final`: the results of a run, in order, and the state it leaves.
- `history_inv`: the one induction of the methodology. An invariant relating
  the state to the list of arguments consumed so far holds along every run.
- `final_map`, `outputs_map`: a component that is part of a larger state runs as
  it does alone.
- `replay`, `outputs_eq_replay`: a component whose result is determined by the
  arguments consumed so far computes that function of its history;
  `replay_filter` is the two-run statement that some arguments do not matter.
- `run`, `run_inv`: the same induction for a step that may not be enabled; `AlongRun`
  is what every event of such a run meets.
- `run_rel`: two such systems in lock step; `run_part`, `run_stutter`: a part of one.
- `run_budget`, `run_measure`: what a run still appends to a log, and how long it goes on.
-/

namespace CanSentinel.Machine

universe u v w

variable {σ : Type u} {ι : Type v} {β : Type w}

/-- The results of a run, in order. -/
def outputs (f : σ → ι → β × σ) : σ → List ι → List β
  | _, [] => []
  | s, x :: xs => (f s x).1 :: outputs f (f s x).2 xs

/-- The state a run leaves. -/
def final (f : σ → ι → β × σ) : σ → List ι → σ
  | s, [] => s
  | s, x :: xs => final f (f s x).2 xs

variable (f : σ → ι → β × σ)

@[simp] theorem outputs_nil (s : σ) : outputs f s [] = [] := rfl

@[simp] theorem outputs_cons (s : σ) (x : ι) (xs : List ι) :
    outputs f s (x :: xs) = (f s x).1 :: outputs f (f s x).2 xs := rfl

@[simp] theorem final_nil (s : σ) : final f s [] = s := rfl

@[simp] theorem final_cons (s : σ) (x : ι) (xs : List ι) :
    final f s (x :: xs) = final f (f s x).2 xs := rfl

theorem final_append (s : σ) (xs ys : List ι) :
    final f s (xs ++ ys) = final f (final f s xs) ys := by
  induction xs generalizing s with
  | nil => rfl
  | cons x xs ih => exact ih _

@[simp] theorem final_concat (s : σ) (xs : List ι) (x : ι) :
    final f s (xs ++ [x]) = (f (final f s xs) x).2 := by
  rw [final_append]
  rfl

theorem outputs_append (s : σ) (xs ys : List ι) :
    outputs f s (xs ++ ys) = outputs f s xs ++ outputs f (final f s xs) ys := by
  induction xs generalizing s with
  | nil => rfl
  | cons x xs ih =>
    rw [List.cons_append, outputs_cons, ih]
    rfl

@[simp] theorem outputs_concat (s : σ) (xs : List ι) (x : ι) :
    outputs f s (xs ++ [x]) = outputs f s xs ++ [(f (final f s xs) x).1] := by
  rw [outputs_append]
  rfl

theorem length_outputs (s : σ) (xs : List ι) : (outputs f s xs).length = xs.length := by
  induction xs generalizing s with
  | nil => rfl
  | cons x xs ih => exact congrArg Nat.succ (ih _)

/-- The results without the last are those of the run without the last argument. -/
theorem outputs_dropLast (s : σ) (xs : List ι) :
    outputs f s xs.dropLast = (outputs f s xs).dropLast := by
  cases xs using List.reverseRecOn with
  | nil => rfl
  | append_singleton xs x => rw [List.dropLast_concat, outputs_concat, List.dropLast_concat]

/-- Arguments that a step cannot tell apart give the same run. -/
theorem outputs_map_congr {f : σ → ι → β × σ} {g : ι → ι} {xs : List ι}
    (h : ∀ s, ∀ x ∈ xs, f s (g x) = f s x) (s : σ) :
    outputs f s (xs.map g) = outputs f s xs := by
  induction xs generalizing s with
  | nil => rfl
  | cons x xs ih =>
    rw [List.map_cons, outputs_cons, outputs_cons, h s x List.mem_cons_self,
      ih fun t y hy => h t y (List.mem_cons_of_mem x hy)]

/-- **Run induction.** An invariant tying the state to the consumed arguments
that every step on an argument of `P` preserves holds along every run on such
arguments. -/
theorem history_inv_of {f : σ → ι → β × σ} {P : ι → Prop} {I : List ι → σ → Prop} {s : σ}
    (h : I [] s) (hstep : ∀ pre s x, P x → I pre s → I (pre ++ [x]) (f s x).2)
    (xs : List ι) (hxs : ∀ x ∈ xs, P x) : I xs (final f s xs) := by
  induction xs using List.reverseRecOn with
  | nil => exact h
  | append_singleton xs x ih =>
    rw [List.forall_mem_append, List.forall_mem_singleton] at hxs
    rw [final_concat]
    exact hstep xs _ x hxs.2 (ih hxs.1)

/-- Run induction over all arguments. -/
theorem history_inv {f : σ → ι → β × σ} {I : List ι → σ → Prop} {s : σ} (h : I [] s)
    (hstep : ∀ pre s x, I pre s → I (pre ++ [x]) (f s x).2) (xs : List ι) :
    I xs (final f s xs) :=
  history_inv_of (P := fun _ => True) h (fun pre s x _ => hstep pre s x) xs fun _ _ => trivial

/-- Run induction for an invariant of the state alone. -/
theorem final_inv {f : σ → ι → β × σ} {I : σ → Prop} {s : σ} (h : I s)
    (hstep : ∀ s x, I s → I (f s x).2) (xs : List ι) : I (final f s xs) :=
  history_inv (I := fun _ => I) h (fun _ => hstep) xs

/-! ## Components inside components -/

/-- The part `p` of the state of `f` runs like `g`. -/
theorem final_map {τ γ : Type*} {f : σ → ι → β × σ} {g : τ → ι → γ × τ} {p : σ → τ}
    (h : ∀ s x, p (f s x).2 = (g (p s) x).2) (s : σ) (xs : List ι) :
    p (final f s xs) = final g (p s) xs := by
  induction xs generalizing s with
  | nil => rfl
  | cons x xs ih => rw [final_cons, ih, h, final_cons]

/-- If the part also determines the results, the runs have the same results. -/
theorem outputs_map {τ : Type*} {f : σ → ι → β × σ} {g : τ → ι → β × τ} {p : σ → τ}
    (h : ∀ s x, p (f s x).2 = (g (p s) x).2) (hout : ∀ s x, (f s x).1 = (g (p s) x).1)
    (s : σ) (xs : List ι) : outputs f s xs = outputs g (p s) xs := by
  induction xs generalizing s with
  | nil => rfl
  | cons x xs ih => rw [outputs_cons, ih, h, hout, outputs_cons]

/-- A step that translates its argument first. -/
theorem outputs_comap {κ : Type*} (f : σ → ι → β × σ) (g : κ → ι) (s : σ) (xs : List κ) :
    outputs (fun s x => f s (g x)) s xs = outputs f s (xs.map g) := by
  induction xs generalizing s with
  | nil => rfl
  | cons x xs ih => exact congrArg _ (ih _)

theorem final_comap {κ : Type*} (f : σ → ι → β × σ) (g : κ → ι) (s : σ) (xs : List κ) :
    final (fun s x => f s (g x)) s xs = final f s (xs.map g) := by
  induction xs generalizing s with
  | nil => rfl
  | cons x xs ih => exact ih _

/-- The results of a run at its split points: the result for `x` is the one the
step gives in the state the arguments before `x` leave. -/
theorem mem_outputs_iff (s : σ) (xs : List ι) (b : β) :
    b ∈ outputs f s xs ↔ ∃ pre x post, xs = pre ++ x :: post ∧ b = (f (final f s pre) x).1 := by
  induction xs generalizing s with
  | nil => simp
  | cons y xs ih =>
    rw [outputs_cons, List.mem_cons, ih]
    constructor
    · rintro (rfl | ⟨pre, x, post, rfl, rfl⟩)
      · exact ⟨[], y, xs, rfl, rfl⟩
      · exact ⟨y :: pre, x, post, rfl, rfl⟩
    · rintro ⟨pre, x, post, hxs, rfl⟩
      cases pre with
      | nil =>
        rw [List.nil_append, List.cons.injEq] at hxs
        exact .inl (by rw [hxs.1]; rfl)
      | cons z pre =>
        rw [List.cons_append, List.cons.injEq] at hxs
        exact .inr ⟨pre, x, post, hxs.2, by rw [hxs.1]; rfl⟩

/-- What holds at every split point of a run, for a run with one more argument. -/
theorem forall_split_concat {P : List ι → ι → Prop} {xs : List ι} {y : ι} :
    (∀ pre x post, xs ++ [y] = pre ++ x :: post → P pre x) ↔
      (∀ pre x post, xs = pre ++ x :: post → P pre x) ∧ P xs y := by
  constructor
  · intro h
    refine ⟨?_, h xs y [] rfl⟩
    rintro pre x post rfl
    exact h pre x (post ++ [y]) (by rw [List.append_assoc, List.cons_append])
  · rintro ⟨hxs, hy⟩ pre x post hsplit
    cases post using List.reverseRecOn with
    | nil =>
      obtain ⟨rfl, hlast⟩ := List.append_inj' hsplit rfl
      cases hlast
      exact hy
    | append_singleton post z =>
      rw [← List.cons_append, ← List.append_assoc] at hsplit
      exact hxs pre x post (List.append_inj' hsplit rfl).1

/-! ## Answers from the history -/

/-- The results a function `g` of the history gives along a run: each argument
is answered from the arguments before it. -/
def replay (g : List ι → ι → β) : List ι → List ι → List β
  | _, [] => []
  | pre, x :: xs => g pre x :: replay g (pre ++ [x]) xs

@[simp] theorem replay_nil (g : List ι → ι → β) (pre : List ι) :
    replay g pre [] = [] := rfl

@[simp] theorem replay_cons (g : List ι → ι → β) (pre : List ι) (x : ι) (xs : List ι) :
    replay g pre (x :: xs) = g pre x :: replay g (pre ++ [x]) xs := rfl

/-- **A component that answers from its history.** If an invariant tying the
state to the consumed arguments determines every result, then the run computes
that function of the history. -/
theorem outputs_eq_replay {f : σ → ι → β × σ} {P : ι → Prop} {g : List ι → ι → β}
    {I : List ι → σ → Prop}
    (hstep : ∀ pre s x, P x → I pre s → I (pre ++ [x]) (f s x).2)
    (hout : ∀ pre s x, P x → I pre s → (f s x).1 = g pre x)
    {pre : List ι} {s : σ} (h : I pre s) (xs : List ι) (hxs : ∀ x ∈ xs, P x) :
    outputs f s xs = replay g pre xs := by
  induction xs generalizing pre s with
  | nil => rfl
  | cons x xs ih =>
    rw [List.forall_mem_cons] at hxs
    rw [outputs_cons, replay_cons, hout pre s x hxs.1 h, ih (hstep pre s x hxs.1 h) hxs.2]

/-- **Non-interference.** If the answer to an argument of `p` depends on the
arguments of `p` before it only, then removing all other arguments from the run
does not change the answers to those of `p`. -/
theorem replay_filter {g : List ι → ι → β} {p : ι → Bool}
    (hg : ∀ pre x, p x = true → g (pre.filter p) x = g pre x) (pre xs : List ι) :
    ((xs.zip (replay g pre xs)).filter fun e => p e.1).map Prod.snd =
      replay g (pre.filter p) (xs.filter p) := by
  induction xs generalizing pre with
  | nil => rfl
  | cons x xs ih =>
    have := ih (pre ++ [x])
    rw [List.filter_append] at this
    cases hx : p x with
    | true => simpa [hx, hg pre x hx] using this
    | false => simpa [hx] using this

@[simp] theorem replay_concat (g : List ι → ι → β) (pre xs : List ι) (x : ι) :
    replay g pre (xs ++ [x]) = replay g pre xs ++ [g (pre ++ xs) x] := by
  induction xs generalizing pre with
  | nil => rw [List.append_nil]; rfl
  | cons y xs ih =>
    rw [List.cons_append, replay_cons, ih, List.append_assoc]
    rfl

theorem map_replay {γ : Type*} (h : β → γ) (g : List ι → ι → β) (pre xs : List ι) :
    (replay g pre xs).map h = replay (fun pre x => h (g pre x)) pre xs := by
  induction xs generalizing pre with
  | nil => rfl
  | cons x xs ih => rw [replay_cons, List.map_cons, ih, replay_cons]

/-- The history of translated arguments. -/
theorem replay_map {κ : Type*} (a : κ → ι) (g : List ι → ι → β) (pre xs : List κ) :
    replay g (pre.map a) (xs.map a) = replay (fun pre x => g (pre.map a) (a x)) pre xs := by
  induction xs generalizing pre with
  | nil => rfl
  | cons x xs ih =>
    have := ih (pre ++ [x])
    rw [List.map_append, List.map_singleton] at this
    rw [List.map_cons, replay_cons, this, replay_cons]

/-! ## Guarded steps -/

section Guarded

variable {ε : Type v}

/-- A run of a step that is not always enabled: `none` if some event was not. -/
def run (step : σ → ε → Option σ) (s : σ) (es : List ε) : Option σ := es.foldlM step s

@[simp] theorem run_concat (step : σ → ε → Option σ) (s : σ) (es : List ε) (e : ε) :
    run step s (es ++ [e]) = (run step s es).bind fun t => step t e := by
  simp [run, List.foldlM_append]

theorem run_cons (step : σ → ε → Option σ) (s : σ) (e : ε) (es : List ε) :
    run step s (e :: es) = (step s e).bind fun t => run step t es := rfl

/-- Run induction for guarded steps, with the run so far at hand in the step. -/
theorem run_induction {step : σ → ε → Option σ} {I : List ε → σ → Prop} {s₀ : σ} (h : I [] s₀)
    (hstep : ∀ pre s e s', run step s₀ pre = some s → I pre s → step s e = some s' →
      I (pre ++ [e]) s')
    {es : List ε} {s : σ} (hrun : run step s₀ es = some s) : I es s := by
  induction es using List.reverseRecOn generalizing s with
  | nil =>
    obtain rfl : s₀ = s := Option.some.inj hrun
    exact h
  | append_singleton es e ih =>
    rw [run_concat, Option.bind_eq_some_iff] at hrun
    obtain ⟨t, ht, hs⟩ := hrun
    exact hstep es t e s ht (ih ht) hs

/-- **Run induction** for guarded steps: an invariant tying the state to the events
so far, preserved by every enabled step, holds after every run. -/
theorem run_inv {step : σ → ε → Option σ} {I : List ε → σ → Prop} {s₀ : σ} (h : I [] s₀)
    (hstep : ∀ pre s e s', I pre s → step s e = some s' → I (pre ++ [e]) s')
    {es : List ε} {s : σ} (hrun : run step s₀ es = some s) : I es s :=
  run_induction h (fun pre s e s' _ => hstep pre s e s') hrun

/-- **Simulation.** Two systems whose states stay related at every event enable the same
runs, and leave related states. -/
theorem run_rel {τ : Type*} {rel : σ → τ → Prop} {step : σ → ε → Option σ}
    {step' : τ → ε → Option τ}
    (h : ∀ s t e, rel s t → Option.Rel rel (step s e) (step' t e)) {s : σ} {t : τ}
    (hst : rel s t) (es : List ε) : Option.Rel rel (run step s es) (run step' t es) := by
  induction es generalizing s t with
  | nil => exact .some hst
  | cons e es ih =>
    rw [run_cons, run_cons]
    have hnext := h s t e hst
    generalize step s e = next at hnext
    generalize step' t e = next' at hnext
    cases hnext with
    | some hrel => exact ih hrel
    | none => exact .none

/-- **Parts.** If the events that `a` translates act on a part `p` of the state like `step'`
and the others leave it, then the part runs on the translated events. -/
theorem run_part {τ : Type*} {α : Type*} {step : σ → ε → Option σ} {step' : τ → α → Option τ}
    {p : σ → τ} {a : ε → Option α}
    (hpart : ∀ s e s' x, step s e = some s' → a e = some x → step' (p s) x = some (p s'))
    (hother : ∀ s e s', step s e = some s' → a e = none → p s' = p s) {s₀ : σ} {es : List ε}
    {s : σ} (hrun : run step s₀ es = some s) : run step' (p s₀) (es.filterMap a) = some (p s) := by
  refine run_inv (I := fun es s => run step' (p s₀) (es.filterMap a) = some (p s)) rfl ?_ hrun
  intro pre s e s' h hstep
  rw [List.filterMap_append]
  cases ha : a e with
  | none => rw [List.filterMap_cons_none ha, List.filterMap_nil, List.append_nil, h,
      hother s e s' hstep ha]
  | some x =>
    rw [List.filterMap_cons_some ha, List.filterMap_nil, run_concat, h]
    exact hpart s e s' x hstep ha

/-- **Refinement with stuttering.** If every step keeps the invariant `I`, and leaves the part
`p` or is a step of it, then the part has made a run. -/
theorem run_stutter {τ : Type*} {α : Type*} {step : σ → ε → Option σ} {step' : τ → α → Option τ}
    {I : σ → Prop} {p : σ → τ}
    (h : ∀ s e s', I s → step s e = some s' →
      I s' ∧ (p s' = p s ∨ ∃ x, step' (p s) x = some (p s')))
    {s₀ : σ} (hI : I s₀) {es : List ε} {s : σ} (hrun : run step s₀ es = some s) :
    ∃ xs, run step' (p s₀) xs = some (p s) := by
  refine (run_inv (I := fun _ s => I s ∧ ∃ xs, run step' (p s₀) xs = some (p s))
    ⟨hI, [], rfl⟩ ?_ hrun).2
  rintro pre s e s' ⟨hs, xs, hxs⟩ hstep
  obtain ⟨hs', hsame | ⟨x, hx⟩⟩ := h s e s' hs hstep
  · exact ⟨hs', xs, by rw [hsame, hxs]⟩
  · refine ⟨hs', xs ++ [x], ?_⟩
    rw [run_concat, hxs]
    exact hx

/-- **Budgets.** If every step on an event of `P` takes what it appends to a log from the front
of a list, then a run appends nothing but the beginning of that list. -/
theorem run_budget {α γ : Type*} {step : σ → ε → Option σ} {P : ε → Prop} {I : σ → Prop}
    {log : σ → List α} {f : α → γ} {budget : σ → List γ}
    (h : ∀ s e s', I s → P e → step s e = some s' →
      I s' ∧ ∃ new, log s' = log s ++ new ∧ new.map f ++ budget s' <+: budget s)
    {s₀ : σ} (hI : I s₀) {es : List ε} (hes : ∀ e ∈ es, P e) {s : σ}
    (hrun : run step s₀ es = some s) :
    ∃ late, log s = log s₀ ++ late ∧ late.map f <+: budget s₀ := by
  have hinv : (∀ e ∈ es, P e) → I s ∧ ∃ late, log s = log s₀ ++ late ∧
      late.map f ++ budget s <+: budget s₀ := by
    refine run_inv (I := fun es s => (∀ e ∈ es, P e) → I s ∧ ∃ late, log s = log s₀ ++ late ∧
      late.map f ++ budget s <+: budget s₀) ?_ ?_ hrun
    · exact fun _ => ⟨hI, [], (List.append_nil _).symm, List.prefix_refl _⟩
    · intro pre s e s' ih hstep hP
      rw [List.forall_mem_append, List.forall_mem_singleton] at hP
      obtain ⟨hs, late, hlate, hle⟩ := ih hP.1
      obtain ⟨hs', new, hnew, hpay⟩ := h s e s' hs hP.2 hstep
      refine ⟨hs', late ++ new, by rw [hnew, hlate, List.append_assoc], ?_⟩
      rw [List.map_append, List.append_assoc]
      exact ((List.prefix_append_right_inj _).mpr hpay).trans hle
  obtain ⟨_, late, hlate, hle⟩ := hinv hes
  exact ⟨late, hlate, (List.prefix_append _ _).trans hle⟩

/-- **Measures.** If every step keeps `I` and does not raise a measure, and the steps on the
events of `c` lower it, then a run has no more events of `c` than the measure at its start. -/
theorem run_measure {step : σ → ε → Option σ} {P : ε → Prop} {I : σ → Prop} {c : ε → Bool}
    {measure : σ → ℕ}
    (h : ∀ s e s', I s → P e → step s e = some s' →
      I s' ∧ measure s' + (if c e then 1 else 0) ≤ measure s)
    {s₀ : σ} (hI : I s₀) {es : List ε} (hes : ∀ e ∈ es, P e) {s : σ}
    (hrun : run step s₀ es = some s) : es.countP c + measure s ≤ measure s₀ := by
  have hinv : (∀ e ∈ es, P e) → I s ∧ es.countP c + measure s ≤ measure s₀ := by
    refine run_inv (I := fun es s => (∀ e ∈ es, P e) →
      I s ∧ es.countP c + measure s ≤ measure s₀) (fun _ => ⟨hI, (Nat.zero_add _).le⟩) ?_ hrun
    intro pre s e s' ih hstep hP
    rw [List.forall_mem_append, List.forall_mem_singleton] at hP
    obtain ⟨hs, hle⟩ := ih hP.1
    obtain ⟨hs', hless⟩ := h s e s' hs hP.2 hstep
    refine ⟨hs', ?_⟩
    rw [List.countP_append, List.countP_singleton]
    omega
  exact (hinv hes).2

theorem exists_of_rel_some {τ : Type*} {rel : σ → τ → Prop} {s : σ} {x : Option τ}
    (h : Option.Rel rel (some s) x) : ∃ t, x = some t ∧ rel s t := by
  cases h with
  | some hst => exact ⟨_, rfl, hst⟩

theorem exists_of_some_rel {τ : Type*} {rel : σ → τ → Prop} {t : τ} {x : Option σ}
    (h : Option.Rel rel x (some t)) : ∃ s, x = some s ∧ rel s t := by
  cases h with
  | some hst => exact ⟨_, rfl, hst⟩

/-- Every event of the run meets `P` in the state before it. -/
def AlongRun (step : σ → ε → Option σ) (P : σ → ε → Prop) (s₀ : σ) (es : List ε) : Prop :=
  ∀ pre e post, es = pre ++ e :: post → ∀ s, run step s₀ pre = some s → P s e

@[simp] theorem alongRun_nil (step : σ → ε → Option σ) (P : σ → ε → Prop) (s₀ : σ) :
    AlongRun step P s₀ [] := by
  intro pre e post hsplit
  simp at hsplit

theorem alongRun_concat {step : σ → ε → Option σ} (P : σ → ε → Prop) {s₀ s : σ} {es : List ε}
    (hrun : run step s₀ es = some s) (e : ε) :
    AlongRun step P s₀ (es ++ [e]) ↔ AlongRun step P s₀ es ∧ P s e := by
  refine forall_split_concat.trans (and_congr_right' ?_)
  constructor
  · intro hall
    exact hall s hrun
  · intro hs t ht
    rwa [← Option.some.inj (hrun.symm.trans ht)]

/-- **Views.** If a part `p` of the state is changed by the events of `c` only, by a
function `g` of the part, then the part after a run is a fold over these events. -/
theorem run_view {τ : Type*} {step : σ → ε → Option σ} {I : σ → Prop} {p : σ → τ}
    {g : τ → ε → τ} {c : ε → Bool} {s₀ : σ} (h : I s₀)
    (hstep : ∀ s e s', I s → step s e = some s' →
      I s' ∧ p s' = if c e then g (p s) e else p s)
    {es : List ε} {s : σ} (hrun : run step s₀ es = some s) :
    p s = (es.filter c).foldl g (p s₀) := by
  refine (run_inv (I := fun es s => I s ∧ p s = (es.filter c).foldl g (p s₀)) ⟨h, rfl⟩ ?_ hrun).2
  rintro pre s e s' ⟨hs, hview⟩ hes
  obtain ⟨hs', hpart⟩ := hstep s e s' hs hes
  refine ⟨hs', ?_⟩
  rw [hpart, hview, List.filter_append, List.foldl_append]
  by_cases hc : c e = true
  · rw [if_pos hc, List.filter_cons_of_pos hc]
    rfl
  · rw [if_neg hc, List.filter_cons_of_neg hc]
    rfl

end Guarded

end CanSentinel.Machine
