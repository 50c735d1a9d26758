import QueryLayer.Proofs.Session.Journal

/-!
# Stacks of monitored executors

A monitored executor is an executor, so it can be wrapped once more. A statement that is given to
the outermost layer of such a stack reaches the executor at the bottom once, and each layer tells
of its start before, and of its end after, all that happens further inside. A tag does not get far:
the outermost layer tells its own monitor of it and hands the statement on without it, so that
neither the layers further inside nor the executor learn of it.
-/
namespace QueryLayer

variable {σ α : Type}

/-- What a monitored executor has besides the executor that it wraps. -/
structure Layer (σ : Type) where
  monitor : Callback → StateM σ Unit
  elapsed : StateM σ Duration
  config : MonitorConfig := {}

/-- A layer around an executor. -/
def Layer.around (layer : Layer σ) (client : Executor σ) : Monitored σ where
  client
  monitor := layer.monitor
  elapsed := layer.elapsed
  config := layer.config

namespace Executor

/-- An executor under layers, the outermost first. -/
def under (client : Executor σ) : List (Layer σ) → Executor σ
  | [] => client
  | layer :: inner => (layer.around (client.under inner)).toExecutor

/-- A statement is given to an executor, under a tag or without one. -/
def submit (client : Executor σ) : Option String → String → StateM σ Reply
  | none => client.execute
  | some tag => client.executeTagged tag

end Executor

/-- What there is to be seen of a statement on its way through a stack. -/
inductive Sighting where
  /-- The executor at the bottom is given a statement. -/
  | given (tag : Option String) (sql : String)
  /-- A monitor is told something; the height is the number of layers further inside. -/
  | told (height : Nat) (callback : Callback)
  deriving DecidableEq

/-- What the executor at the bottom is given. -/
def Sighting.given? : Sighting → Option (Option String × String)
  | given tag sql => some (tag, sql)
  | told _ _ => none

/-- Sightings, oldest first. -/
abbrev Sightings := List Sighting

/-- An action that is seen. -/
def sighted (x : StateM σ α) (sighting : Sighting) : StateM (σ × Sightings) α := fun state =>
  ((x state.1).1, (x state.1).2, state.2 ++ [sighting])

/-- An action that is not seen. -/
def unsighted (x : StateM σ α) : StateM (σ × Sightings) α := fun state =>
  ((x state.1).1, (x state.1).2, state.2)

/-- A layer whose monitor is watched. -/
def Layer.sighted (layer : Layer σ) (height : Nat) : Layer (σ × Sightings) where
  monitor callback := QueryLayer.sighted (layer.monitor callback) (.told height callback)
  elapsed := unsighted layer.elapsed
  config := layer.config

namespace Executor

/-- An executor that is watched. -/
def sighted (client : Executor σ) : Executor (σ × Sightings) where
  dialect := client.dialect
  literal := client.literal
  execute sql := QueryLayer.sighted (client.execute sql) (.given none sql)
  executeTagged tag sql :=
    QueryLayer.sighted (client.executeTagged tag sql) (.given (some tag) sql)

/-- The same stack with a watch on the executor and on each monitor. -/
def sightedUnder (client : Executor σ) : List (Layer σ) → Executor (σ × Sightings)
  | [] => client.sighted
  | layer :: inner =>
    ((layer.sighted inner.length).around (client.sightedUnder inner)).toExecutor

end Executor

/-- What is seen of a layer before anything further inside. -/
def opening (height : Nat) (config : MonitorConfig) (context : Context) : Sightings :=
  if config.enabled then [.told height (.start context)] else []

/-- What is seen of a layer after everything further inside. -/
def closing (height : Nat) (config : MonitorConfig) (context : Context) (elapsed : Duration)
    (outcome : Outcome) : Sightings :=
  if config.enabled then
    .told height (.complete context elapsed outcome) ::
      if config.isSlow elapsed then [.told height (.slow context elapsed outcome)] else []
  else []

/-- A statement goes through layers with tags of their own, the outermost first, and reaches the
executor under a tag. What is seen of a layer is around all that is seen further inside. -/
inductive Nested (sql : String) (reply : Reply) (reached : Option String) :
    List (MonitorConfig × Option String) → Sightings → Prop
  | bottom : Nested sql reply reached [] [.given reached sql]
  | layer {config : MonitorConfig} {tag : Option String}
      {inner : List (MonitorConfig × Option String)} {sightings : Sightings} (elapsed : Duration)
      (inside : Nested sql reply reached inner sightings) :
      Nested sql reply reached ((config, tag) :: inner)
        (opening inner.length config (.of sql tag) ++ sightings ++
          closing inner.length config (.of sql tag) elapsed (.ofReply reply))

@[simp] theorem given?_opening (height : Nat) (config : MonitorConfig) (context : Context) :
    (opening height config context).filterMap Sighting.given? = [] := by
  rw [opening]
  split <;> rfl

@[simp] theorem given?_closing (height : Nat) (config : MonitorConfig) (context : Context)
    (elapsed : Duration) (outcome : Outcome) :
    (closing height config context elapsed outcome).filterMap Sighting.given? = [] := by
  rw [closing]
  split
  · split <;> rfl
  · rfl

/-- However many layers there are, the executor gets the statement once. -/
theorem Nested.given?_eq {sql : String} {reply : Reply} {reached : Option String}
    {layers : List (MonitorConfig × Option String)} {sightings : Sightings}
    (h : Nested sql reply reached layers sightings) :
    sightings.filterMap Sighting.given? = [(reached, sql)] := by
  induction h with
  | bottom => rfl
  | layer elapsed inside ih => simp [ih]

namespace Monitored

theorem submit_toExecutor (wrapped : Monitored σ) (tag : Option String) :
    wrapped.toExecutor.submit tag = wrapped.perform tag := by
  cases tag <;> rfl

variable (wrapped : Monitored σ) (context : Context)

/-- The state once the monitor has been told of the start of a statement, if it is to be. -/
def started (s : σ) : σ :=
  if wrapped.config.enabled then (wrapped.monitor (.start context) s).2 else s

/-- The state once the monitor has been told of the end of a statement, if it is to be. -/
def reported (elapsed : Duration) (outcome : Outcome) (s : σ) : σ :=
  if wrapped.config.enabled then
    let completed := (wrapped.monitor (.complete context elapsed outcome) s).2
    if wrapped.config.isSlow elapsed then
      (wrapped.monitor (.slow context elapsed outcome) completed).2
    else completed
  else s

theorem reportResult_apply (elapsed : Duration) (outcome : Outcome) (s : σ) :
    wrapped.reportResult context elapsed outcome s =
      ((), wrapped.reported context elapsed outcome s) := by
  rw [reportResult, reported]
  by_cases henabled : wrapped.config.enabled = true
  · rw [if_pos henabled, if_pos henabled]
    by_cases hslow : wrapped.config.isSlow elapsed = true
    · rw [if_pos hslow, if_pos hslow]; rfl
    · rw [if_neg hslow, if_neg hslow]; rfl
  · rw [if_neg henabled, if_neg henabled]; rfl

/-- One statement, state by state. -/
theorem perform_apply (tag : Option String) (sql : String) (s : σ) :
    wrapped.perform tag sql s =
      let answered := wrapped.client.execute sql (wrapped.started (.of sql tag) s)
      let timed := wrapped.elapsed answered.2
      (answered.1, wrapped.reported (.of sql tag) timed.1 (.ofReply answered.1) timed.2) := by
  have hreported (elapsed : Duration) (outcome : Outcome) (s : σ) :
      (wrapped.reportResult (.of sql tag) elapsed outcome s).2 =
        wrapped.reported (.of sql tag) elapsed outcome s :=
    congrArg Prod.snd (wrapped.reportResult_apply (.of sql tag) elapsed outcome s)
  rw [perform_eq, started]
  simp only [← hreported]
  by_cases henabled : wrapped.config.enabled = true
  · rw [if_pos henabled, if_pos henabled]; rfl
  · rw [if_neg henabled, if_neg henabled]; rfl

end Monitored

namespace Layer
variable (layer : Layer σ) (height : Nat) (inside : Executor σ)
  (inside' : Executor (σ × Sightings)) (context : Context) (s : σ) (before : Sightings)

theorem started_sighted :
    ((layer.sighted height).around inside').started context (s, before) =
      ((layer.around inside).started context s, before ++ opening height layer.config context) := by
  cases henabled : layer.config.enabled with
  | true =>
    simp only [Monitored.started, around, sighted, opening, henabled, if_true]
    rfl
  | false => simp [Monitored.started, around, sighted, opening, henabled]

theorem reported_sighted (elapsed : Duration) (outcome : Outcome) :
    ((layer.sighted height).around inside').reported context elapsed outcome (s, before) =
      ((layer.around inside).reported context elapsed outcome s,
        before ++ closing height layer.config context elapsed outcome) := by
  cases henabled : layer.config.enabled with
  | true =>
    cases hslow : layer.config.isSlow elapsed with
    | true =>
      simp [Monitored.reported, around, sighted, closing, henabled, hslow, QueryLayer.sighted]
    | false =>
      simp [Monitored.reported, around, sighted, closing, henabled, hslow, QueryLayer.sighted]
  | false => simp [Monitored.reported, around, sighted, closing, henabled]

end Layer

/-- With a watch, `x` does what `y` does without one, and what is seen is a statement that goes
through layers with tags of their own and reaches the executor under a tag. -/
def Passes (sql : String) (reached : Option String) (layers : List (MonitorConfig × Option String))
    (x : StateM (σ × Sightings) Reply) (y : StateM σ Reply) : Prop :=
  ∀ s before, ∃ sightings, x (s, before) = ((y s).1, (y s).2, before ++ sightings) ∧
    Nested sql (y s).1 reached layers sightings

namespace Passes
variable {sql : String} {reached : Option String} {inner : List (MonitorConfig × Option String)}
  {inside : Executor σ} {inside' : Executor (σ × Sightings)}

/-- One more layer is seen around what is seen further inside, where the statement arrives without
a tag whatever tag the layer has for it. -/
theorem perform (h : Passes sql reached inner (inside'.execute sql) (inside.execute sql))
    (layer : Layer σ) (tag : Option String) :
    Passes sql reached ((layer.config, tag) :: inner)
      (((layer.sighted inner.length).around inside').perform tag sql)
      ((layer.around inside).perform tag sql) := by
  intro s before
  let context : Context := .of sql tag
  let answered := inside.execute sql ((layer.around inside).started context s)
  let timed := layer.elapsed answered.2
  obtain ⟨sightings, hexecute, hnested⟩ := h ((layer.around inside).started context s)
    (before ++ opening inner.length layer.config context)
  have hclient : ((layer.sighted inner.length).around inside').client = inside' := rfl
  rw [Monitored.perform_apply, Monitored.perform_apply,
    layer.started_sighted inner.length inside, hclient, hexecute]
  refine ⟨_, ?_, .layer timed.1 hnested⟩
  -- What is seen so far ends where the closing of this layer begins.
  have hreported := layer.reported_sighted inner.length inside inside' context timed.2
    (before ++ opening inner.length layer.config context ++ sightings) timed.1
    (.ofReply answered.1)
  simp only [List.append_assoc] at hreported ⊢
  exact congrArg (Prod.mk answered.1) hreported

end Passes

namespace Executor
variable (client : Executor σ)

/-- A statement without a tag goes through all layers without one. -/
theorem passes_execute (layers : List (Layer σ)) (sql : String) :
    Passes sql none (layers.map fun layer => (layer.config, none))
      ((client.sightedUnder layers).execute sql) ((client.under layers).execute sql) := by
  induction layers with
  | nil => exact fun s before => ⟨[.given none sql], rfl, .bottom⟩
  | cons layer inner ih =>
    -- Further inside, the statement is given to `execute` again, so the induction goes through.
    have hlayer := ih.perform layer none
    rwa [List.length_map] at hlayer

/-- Only the outermost layer has the tag of a statement. -/
theorem passes_submit (outer : Layer σ) (inner : List (Layer σ)) (tag : Option String)
    (sql : String) :
    Passes sql none ((outer.config, tag) :: inner.map fun layer => (layer.config, none))
      ((client.sightedUnder (outer :: inner)).submit tag sql)
      ((client.under (outer :: inner)).submit tag sql) := by
  have houter := (client.passes_execute inner sql).perform outer tag
  rw [List.length_map] at houter
  rw [sightedUnder, under, Monitored.submit_toExecutor, Monitored.submit_toExecutor]
  exact houter

end Executor

/-- What becomes of a statement and its tag in a stack with an outermost layer. -/
structure Submitted (client : Executor σ) (outer : Layer σ) (inner : List (Layer σ))
    (tag : Option String) (sql : String) (s : σ) (sightings : Sightings) : Prop where
  /-- The watch takes part in nothing. -/
  unchanged : (client.sightedUnder (outer :: inner)).submit tag sql (s, []) =
    (((client.under (outer :: inner)).submit tag sql s).1,
      ((client.under (outer :: inner)).submit tag sql s).2, sightings)
  /-- Each layer whose monitoring is on tells of its start before, and of its end and perhaps its
  slowness after, everything further inside: the outermost with the tag, the others without. -/
  nested : Nested sql ((client.under (outer :: inner)).submit tag sql s).1 none
    ((outer.config, tag) :: inner.map fun layer => (layer.config, none)) sightings
  /-- The executor at the bottom is given the statement once, and without a tag. -/
  given : sightings.filterMap Sighting.given? = [(none, sql)]
  /-- So the tag goes through all layers to the executor just where there is none. -/
  handedOn_iff : Nested sql ((client.under (outer :: inner)).submit tag sql s).1 tag
    ((outer :: inner).map fun layer => (layer.config, tag)) sightings ↔ tag = none

/-- **A stack is transparent but for tags.** A statement without a tag goes through any number of
layers to the executor and back, and each layer tells of it as if it were the only one. With a tag
it does the same, but only the outermost layer ever tells of the tag. -/
theorem Executor.exists_submitted (client : Executor σ) (outer : Layer σ)
    (inner : List (Layer σ)) (tag : Option String) (sql : String) (s : σ) :
    ∃ sightings, Submitted client outer inner tag sql s sightings := by
  obtain ⟨sightings, hrun, hnested⟩ := client.passes_submit outer inner tag sql s []
  refine ⟨sightings, hrun, hnested, hnested.given?_eq, ?_⟩
  constructor
  · intro hhanded
    have hgiven := hhanded.given?_eq
    rw [hnested.given?_eq] at hgiven
    simpa [eq_comm] using hgiven
  · rintro rfl
    exact hnested

/-- The tag of a statement that goes through two layers: the inner one does not tell of it, and the
executor does not get it. -/
theorem tag_lost_inside :
    let layer : Layer Unit := { monitor := fun _ => pure (), elapsed := pure ⟨0⟩ }
    let client : Executor Unit := { dialect := .mysql, execute := fun _ => pure (.ok {}) }
    let sql := "SELECT 1"
    let sightings :=
      ((client.sightedUnder [layer, layer]).submit (some "select") sql ((), [])).2.2
    sightings =
        [.told 1 (.start (.of sql (some "select"))), .told 0 (.start (.of sql none)),
          .given none sql, .told 0 (.complete (.of sql none) ⟨0⟩ (.rows 0)),
          .told 1 (.complete (.of sql (some "select")) ⟨0⟩ (.rows 0))] ∧
      ¬ Nested sql (.ok {}) (some "select") [({}, some "select"), ({}, some "select")]
        sightings := by
  intro layer client sql sightings
  have hsightings : sightings.filterMap Sighting.given? = [(none, sql)] := rfl
  refine ⟨rfl, fun hhanded => ?_⟩
  rw [hhanded.given?_eq] at hsightings
  simp at hsightings

end QueryLayer
