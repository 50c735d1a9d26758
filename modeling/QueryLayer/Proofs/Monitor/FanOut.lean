import Mathlib.Data.List.Forall2
import QueryLayer.Monitor.Sink
import QueryLayer.Monitor.Tree

/-!
# Trees of monitors

A tree of composite monitors does the same as one composite of its leaves, for leaves of any kind:
each callback reaches the leaves from left to right, every one of them once, before the next
callback reaches any. So a receiver holds the events of all callbacks since the start for as long
as it is there. When it goes away, nothing else changes from there on.
-/
namespace QueryLayer

variable {μ υ ω : Type}

/-- What happens to monitors. -/
inductive Happening where
  /-- They are told something. -/
  | told (callback : Callback)
  /-- The receiver of a channel goes away. -/
  | dropped (channel : Nat)
  deriving DecidableEq

/-- What the monitors are told, if it is that. -/
def Happening.callback? : Happening → Option Callback
  | told callback => some callback
  | dropped _ => none

/-- All that the monitors are told. -/
def callbacksOf (happenings : List Happening) : List Callback :=
  happenings.filterMap Happening.callback?

/-- The end of a receiver is nothing that monitors are told. -/
theorem callbacksOf_filter_dropped (happenings : List Happening) (channel : Nat) :
    callbacksOf (happenings.filter (· ≠ .dropped channel)) = callbacksOf happenings := by
  rw [callbacksOf, callbacksOf, List.filterMap_filter]
  congr 1
  funext happening
  cases happening with
  | told callback => rfl
  | dropped number => exact ite_self none

/-- All leaves are told the first callback in turn, then the next. -/
def fannedOut (leaves : List μ) (callbacks : List Callback) : List (μ × Callback) :=
  callbacks.flatMap fun callback => leaves.map fun monitor => (monitor, callback)

/-- The callbacks of a log that reached leaves of some kind. -/
def reaching (which : μ → Bool) (log : List (μ × Callback)) : List Callback :=
  (log.filter fun entry => which entry.1).map Prod.snd

theorem reaching_append (which : μ → Bool) (log log' : List (μ × Callback)) :
    reaching which (log ++ log') = reaching which log ++ reaching which log' := by
  rw [reaching, List.filter_append, List.map_append]
  rfl

theorem reaching_map (which : μ → Bool) (leaves : List μ) (callback : Callback) :
    reaching which (leaves.map fun monitor => (monitor, callback)) =
      List.replicate (leaves.countP which) callback := by
  rw [reaching, List.filter_map, List.map_map, List.countP_eq_length_filter]
  exact List.map_const'

theorem reaching_fannedOut (which : μ → Bool) (leaves : List μ) (callbacks : List Callback) :
    reaching which (fannedOut leaves callbacks) =
      callbacks.flatMap fun callback => List.replicate (leaves.countP which) callback := by
  induction callbacks with
  | nil => rfl
  | cons callback callbacks ih =>
    rw [fannedOut, List.flatMap_cons, reaching_append, reaching_map, List.flatMap_cons, ← ih]
    rfl

theorem reaching_fannedOut_of_countP_eq_one {which : μ → Bool} {leaves : List μ}
    (h : leaves.countP which = 1) (callbacks : List Callback) :
    reaching which (fannedOut leaves callbacks) = callbacks := by
  rw [reaching_fannedOut, h]
  exact List.flatMap_singleton' callbacks

/-- What leaves do with callbacks, and what the end of a receiver does. -/
structure Behaviour (μ ω : Type) where
  receive : μ → Callback → ω → ω
  drop : Nat → ω → ω

namespace Behaviour

/-- The same with a log of which callback has reached which leaf. -/
def logged (behaviour : Behaviour μ ω) : Behaviour μ (ω × List (μ × Callback)) where
  receive monitor callback state :=
    (behaviour.receive monitor callback state.1, state.2 ++ [(monitor, callback)])
  drop channel state := (behaviour.drop channel state.1, state.2)

/-- Sinks, beside monitors of any other kind that act on a state of their own. -/
def ofSinks (other : μ → Callback → υ → υ) : Behaviour (Sink ⊕ μ) (Outlets × υ) where
  receive
    | .inl sink, callback, state => (sink.receive callback state.1, state.2)
    | .inr monitor, callback, state => (state.1, other monitor callback state.2)
  drop channel state := (state.1.dropReceiver channel, state.2)

end Behaviour

namespace MonitorTree

mutual

-- Trees and lists of trees are nested, so both recursions stand here together and follow `notify`
-- and `notifyForest`.
/-- A callback goes through a tree as it goes through the list of the leaves. -/
theorem notify_eq_foldl (receive : μ → Callback → ω → ω) (callback : Callback)
    (tree : MonitorTree μ) (w : ω) :
    tree.notify receive callback w =
      tree.leaves.foldl (fun w monitor => receive monitor callback w) w := by
  match tree with
  | leaf monitor => simp
  | composite children =>
    rw [notify, leaves]
    exact notifyForest_eq_foldl receive callback children w

theorem notifyForest_eq_foldl (receive : μ → Callback → ω → ω) (callback : Callback)
    (trees : List (MonitorTree μ)) (w : ω) :
    notifyForest receive callback trees w =
      (forestLeaves trees).foldl (fun w monitor => receive monitor callback w) w := by
  match trees with
  | [] => simp [notifyForest, forestLeaves]
  | tree :: rest =>
    rw [notifyForest, forestLeaves, List.foldl_append, notify_eq_foldl receive callback tree,
      notifyForest_eq_foldl receive callback rest]

end

/-- One composite of the leaves of a tree. -/
def flat (tree : MonitorTree μ) : MonitorTree μ := composite (tree.leaves.map leaf)

theorem forestLeaves_map_leaf (monitors : List μ) : forestLeaves (monitors.map leaf) = monitors := by
  induction monitors with
  | nil => simp [forestLeaves]
  | cons monitor monitors ih => simp [forestLeaves, ih]

@[simp] theorem leaves_flat (tree : MonitorTree μ) : tree.flat.leaves = tree.leaves := by
  rw [flat, leaves, forestLeaves_map_leaf]

/-- One happening. -/
def happen (behaviour : Behaviour μ ω) (tree : MonitorTree μ) (w : ω) : Happening → ω
  | .told callback => tree.notify behaviour.receive callback w
  | .dropped channel => behaviour.drop channel w

/-- Happenings one after the other. -/
def run (behaviour : Behaviour μ ω) (tree : MonitorTree μ) (happenings : List Happening) (w : ω) :
    ω :=
  happenings.foldl (tree.happen behaviour) w

variable (behaviour : Behaviour μ ω) (tree : MonitorTree μ)

theorem run_cons (happening : Happening) (happenings : List Happening) (w : ω) :
    tree.run behaviour (happening :: happenings) w =
      tree.run behaviour happenings (tree.happen behaviour w happening) := rfl

/-- Trees with the same leaves do the same. -/
theorem run_eq_of_leaves_eq {tree tree' : MonitorTree μ} (h : tree.leaves = tree'.leaves)
    (happenings : List Happening) (w : ω) :
    tree.run behaviour happenings w = tree'.run behaviour happenings w := by
  have hstep : tree.happen behaviour = tree'.happen behaviour := by
    funext w happening
    cases happening with
    | told callback => rw [happen, happen, notify_eq_foldl, notify_eq_foldl, h]
    | dropped channel => rfl
  rw [run, run, hstep]

theorem foldl_logged (callback : Callback) (monitors : List μ) (w : ω)
    (log : List (μ × Callback)) :
    monitors.foldl (fun state monitor => behaviour.logged.receive monitor callback state) (w, log) =
      (monitors.foldl (fun w monitor => behaviour.receive monitor callback w) w,
        log ++ monitors.map fun monitor => (monitor, callback)) := by
  induction monitors generalizing w log with
  | nil => simp
  | cons monitor monitors ih =>
    rw [List.foldl_cons, List.foldl_cons, List.map_cons, List.append_cons]
    exact ih _ _

/-- Keeping a log changes nothing, and it has every callback at all leaves in order. -/
theorem run_logged (happenings : List Happening) (w : ω) (log : List (μ × Callback)) :
    tree.run behaviour.logged happenings (w, log) =
      (tree.run behaviour happenings w, log ++ fannedOut tree.leaves (callbacksOf happenings)) := by
  induction happenings generalizing w log with
  | nil => simp [run, callbacksOf, fannedOut]
  | cons happening happenings ih =>
    cases happening with
    | told callback =>
      rw [run_cons, run_cons, happen, happen, notify_eq_foldl, foldl_logged, ih,
        ← notify_eq_foldl, List.append_assoc]
      rfl
    | dropped channel => exact ih _ _

end MonitorTree

/-- Whether a callback is about the start of a statement. -/
def Callback.isStart : Callback → Bool
  | start _ => true
  | _ => false

namespace Event

/-- Which event tells of which callback. No event tells of a start. -/
inductive Tells : Callback → Event → Prop
  /-- Of a complete statement all is told. -/
  | complete (context : Context) (elapsed : Duration) (outcome : Outcome) :
      Tells (.complete context elapsed outcome) (.query context elapsed outcome)
  /-- Of a slow statement its text, its tag and its time are told. -/
  | slow (context : Context) (elapsed : Duration) (outcome : Outcome) :
      Tells (.slow context elapsed outcome) (.slow context.sql context.tag elapsed)
  /-- Of an error its wording is told. -/
  | error (e : Error) : Tells (.error e) (.error e.message)

theorem ofCallback?_eq_some_iff {callback : Callback} {event : Event} :
    ofCallback? callback = some event ↔ Tells callback event := by
  constructor
  · intro h
    cases callback with
    | start context => cases h
    | complete context elapsed outcome =>
      cases h
      exact .complete context elapsed outcome
    | slow context elapsed outcome =>
      cases h
      exact .slow context elapsed outcome
    | error e =>
      cases h
      exact .error e
  · rintro (_ | _ | _) <;> rfl

/-- Starts are all that is not told of. -/
theorem ofCallback?_eq_none_iff {callback : Callback} :
    ofCallback? callback = none ↔ callback.isStart = true := by
  cases callback <;> simp [ofCallback?, Callback.isStart]

/-- One event tells of each callback that is no start, in order. -/
theorem forall₂_filterMap (callbacks : List Callback) :
    List.Forall₂ Tells (callbacks.filter fun callback => !callback.isStart)
      (callbacks.filterMap ofCallback?) := by
  induction callbacks with
  | nil => exact .nil
  | cons callback callbacks ih =>
    cases hevent : ofCallback? callback with
    | none => simpa [hevent, ofCallback?_eq_none_iff.1 hevent] using ih
    | some event =>
      have hstart : ¬ callback.isStart = true := by
        rw [← ofCallback?_eq_none_iff, hevent]
        exact Option.some_ne_none event
      simpa [hevent, hstart] using ⟨ofCallback?_eq_some_iff.1 hevent, ih⟩

end Event

/-- Whether a leaf sends to a channel. -/
def sendsTo (channel : Nat) : Sink ⊕ μ → Bool
  | .inl (.send number) => number = channel
  | _ => false

/-- The events of all callbacks that reached the sender of a channel. -/
def eventsSent (channel : Nat) (log : List ((Sink ⊕ μ) × Callback)) : List Event :=
  (reaching (sendsTo channel) log).filterMap Event.ofCallback?

theorem eventsSent_append (channel : Nat) (log log' : List ((Sink ⊕ μ) × Callback)) :
    eventsSent channel (log ++ log') = eventsSent channel log ++ eventsSent channel log' := by
  rw [eventsSent, reaching_append, List.filterMap_append]
  rfl

section Channels
variable (other : μ → Callback → υ → υ) (channel : Nat)

/-- One leaf adds the event of a callback to the channel it sends to, if there is a receiver. -/
theorem channels_receive (leaf : Sink ⊕ μ) (callback : Callback) (w : Outlets × υ) :
    ((Behaviour.ofSinks other).receive leaf callback w).1.channels[channel]? =
      w.1.channels[channel]?.map fun held =>
        held.map (· ++ eventsSent channel [(leaf, callback)]) := by
  rcases leaf with sink | monitor
  · cases sink with
    | send number =>
      by_cases h : number = channel
      · cases hevent : Event.ofCallback? callback <;>
          simp [Behaviour.ofSinks, Sink.receive, eventsSent, reaching, sendsTo, h, hevent]
      · simp [Behaviour.ofSinks, Sink.receive, eventsSent, reaching, sendsTo, h]
    | _ => simp [Behaviour.ofSinks, Sink.receive, eventsSent, reaching, sendsTo]
  · simp [Behaviour.ofSinks, eventsSent, reaching, sendsTo]

theorem channels_foldl (callback : Callback) (leaves : List (Sink ⊕ μ)) (w : Outlets × υ) :
    (leaves.foldl (fun w leaf => (Behaviour.ofSinks other).receive leaf callback w)
        w).1.channels[channel]? =
      w.1.channels[channel]?.map fun held =>
        held.map (· ++ eventsSent channel (leaves.map fun leaf => (leaf, callback))) := by
  induction leaves generalizing w with
  | nil => simp [eventsSent, reaching]
  | cons leaf leaves ih =>
    have hevents := eventsSent_append channel [(leaf, callback)]
      (leaves.map fun leaf => (leaf, callback))
    rw [List.singleton_append] at hevents
    rw [List.foldl_cons, ih, channels_receive, Option.map_map, List.map_cons, hevents]
    simp [Function.comp_def]

theorem channels_dropReceiver (outlets : Outlets) (dropped : Nat) :
    (outlets.dropReceiver dropped).channels[channel]? =
      outlets.channels[channel]?.map fun held => if dropped = channel then none else held := by
  rw [Outlets.dropReceiver, List.getElem?_modify, Option.map_eq_map]

/-- Any run adds to a channel the events of all callbacks that reached its sender, unless the
receiver has gone away. -/
theorem channels_run (tree : MonitorTree (Sink ⊕ μ)) (happenings : List Happening)
    (w : Outlets × υ) :
    (tree.run (.ofSinks other) happenings w).1.channels[channel]? =
      w.1.channels[channel]?.map fun held =>
        if .dropped channel ∈ happenings then none
        else held.map (· ++ eventsSent channel
          (fannedOut tree.leaves (callbacksOf happenings))) := by
  induction happenings generalizing w with
  | nil => simp [MonitorTree.run, callbacksOf, fannedOut, eventsSent, reaching]
  | cons happening happenings ih =>
    rw [MonitorTree.run_cons, ih]
    cases happening with
    | told callback =>
      have hlog : fannedOut tree.leaves (callbacksOf (.told callback :: happenings)) =
          (tree.leaves.map fun leaf => (leaf, callback)) ++
            fannedOut tree.leaves (callbacksOf happenings) := rfl
      rw [MonitorTree.happen, MonitorTree.notify_eq_foldl, channels_foldl, Option.map_map, hlog,
        eventsSent_append]
      -- Where the receiver goes away later, what it got from this callback is lost as well.
      by_cases hdropped : .dropped channel ∈ happenings
      · simp [hdropped, Function.comp_def]
      · simp [hdropped, Function.comp_def]
    | dropped dropped =>
      have hlog : callbacksOf (.dropped dropped :: happenings) = callbacksOf happenings := rfl
      have hdrop : (tree.happen (.ofSinks other) w (.dropped dropped)).1 =
          w.1.dropReceiver dropped := rfl
      rw [hlog, hdrop, channels_dropReceiver, Option.map_map]
      by_cases hchannel : dropped = channel
      · simp [hchannel, Function.comp_def]
      · simp [hchannel, Ne.symm hchannel, Function.comp_def]

/-- A new receiver whose sender is there once gets all events, for as long as it stays. -/
theorem channels_run_of_countP_eq_one {tree : MonitorTree (Sink ⊕ μ)} {happenings : List Happening}
    {w : Outlets × υ} (hcount : tree.leaves.countP (sendsTo channel) = 1)
    (hnew : w.1.channels[channel]? = some (some [])) (hstays : .dropped channel ∉ happenings) :
    (tree.run (.ofSinks other) happenings w).1.channels[channel]? =
      some (some ((callbacksOf happenings).filterMap Event.ofCallback?)) := by
  rw [channels_run, hnew, Option.map_some, if_neg hstays, Option.map_some, eventsSent,
    reaching_fannedOut_of_countP_eq_one hcount, List.nil_append]

end Channels

/-- Two states that differ at most in what the receiver of one channel holds. -/
structure AgreeApart (channel : Nat) (w w' : Outlets × υ) : Prop where
  stderr : w.1.stderr = w'.1.stderr
  traces : w.1.traces = w'.1.traces
  records : w.1.records = w'.1.records
  channels : ∀ number, number ≠ channel → w.1.channels[number]? = w'.1.channels[number]?
  others : w.2 = w'.2

namespace AgreeApart
variable {channel : Nat} {w w' : Outlets × υ}

theorem refl (channel : Nat) (w : Outlets × υ) : AgreeApart channel w w :=
  ⟨rfl, rfl, rfl, fun _ _ => rfl, rfl⟩

/-- What a leaf does depends on nothing that a receiver holds. -/
theorem receive (h : AgreeApart channel w w') (other : μ → Callback → υ → υ) (leaf : Sink ⊕ μ)
    (callback : Callback) :
    AgreeApart channel ((Behaviour.ofSinks other).receive leaf callback w)
      ((Behaviour.ofSinks other).receive leaf callback w') := by
  have hchannels : ∀ number, number ≠ channel →
      ((Behaviour.ofSinks other).receive leaf callback w).1.channels[number]? =
        ((Behaviour.ofSinks other).receive leaf callback w').1.channels[number]? := by
    intro number hnumber
    rw [channels_receive, channels_receive, h.channels number hnumber]
  rcases leaf with sink | monitor
  · cases sink with
    | discard => exact h
    | log logging => exact { h with stderr := congrArg (· ++ _) h.stderr }
    | trace width => exact { h with traces := congrArg (· ++ _) h.traces }
    | send number => exact { h with channels := hchannels }
    | record number => exact { h with records := congrArg (List.modify · number _) h.records }
  · exact { h with others := congrArg (other monitor callback) h.others }

theorem foldl (h : AgreeApart channel w w') (other : μ → Callback → υ → υ) (callback : Callback)
    (leaves : List (Sink ⊕ μ)) :
    AgreeApart channel
      (leaves.foldl (fun w leaf => (Behaviour.ofSinks other).receive leaf callback w) w)
      (leaves.foldl (fun w leaf => (Behaviour.ofSinks other).receive leaf callback w) w') := by
  induction leaves generalizing w w' with
  | nil => exact h
  | cons leaf leaves ih => exact ih (h.receive other leaf callback)

/-- A receiver goes away on both sides. -/
theorem dropReceiver (h : AgreeApart channel w w') (dropped : Nat) :
    AgreeApart channel (w.1.dropReceiver dropped, w.2) (w'.1.dropReceiver dropped, w'.2) where
  stderr := h.stderr
  traces := h.traces
  records := h.records
  channels number hnumber := by
    rw [channels_dropReceiver, channels_dropReceiver, h.channels number hnumber]
  others := h.others

/-- The receiver of the one channel goes away on one side. -/
theorem dropReceiver_left (h : AgreeApart channel w w') :
    AgreeApart channel (w.1.dropReceiver channel, w.2) w' where
  stderr := h.stderr
  traces := h.traces
  records := h.records
  channels number hnumber := by
    rw [channels_dropReceiver, ← h.channels number hnumber]
    simp [hnumber.symm]
  others := h.others

/-- Whether and when a receiver goes away matters to nothing but what it holds. -/
theorem run (h : AgreeApart channel w w') (other : μ → Callback → υ → υ)
    (tree : MonitorTree (Sink ⊕ μ)) (happenings : List Happening) :
    AgreeApart channel (tree.run (.ofSinks other) happenings w)
      (tree.run (.ofSinks other) (happenings.filter (· ≠ .dropped channel)) w') := by
  induction happenings generalizing w w' with
  | nil => exact h
  | cons happening happenings ih =>
    cases happening with
    | told callback =>
      have htold := h.foldl other callback tree.leaves
      rw [← MonitorTree.notify_eq_foldl, ← MonitorTree.notify_eq_foldl] at htold
      exact ih htold
    | dropped dropped =>
      by_cases hdropped : dropped = channel
      -- The other run goes on without this happening.
      · subst hdropped
        rw [List.filter_cons_of_neg (by simp)]
        exact ih h.dropReceiver_left
      · rw [List.filter_cons_of_pos (by simpa using hdropped)]
        exact ih (h.dropReceiver dropped)

end AgreeApart

/-- What a tree of sinks and other monitors does over any happenings. -/
structure MonitorTree.FansOut (tree : MonitorTree (Sink ⊕ μ)) (other : μ → Callback → υ → υ)
    (happenings : List Happening) (start : Outlets × υ) : Prop where
  /-- One composite of the leaves does the same, with each callback at each leaf. -/
  flat : tree.flat.run (Behaviour.ofSinks other).logged happenings (start, []) =
    tree.run (Behaviour.ofSinks other).logged happenings (start, [])
  /-- Each callback reaches the leaves from left to right before the next one reaches any. -/
  reached : tree.run (Behaviour.ofSinks other).logged happenings (start, []) =
    (tree.run (.ofSinks other) happenings start, fannedOut tree.leaves (callbacksOf happenings))
  /-- A leaf that is there once gets every callback once and in order. -/
  once : ∀ which, tree.leaves.countP which = 1 →
    reaching which (fannedOut tree.leaves (callbacksOf happenings)) = callbacksOf happenings
  /-- A receiver that stays gets the events of what its sender is told, and one that goes away is
  gone for good. -/
  channels : ∀ channel : Nat,
    (tree.run (.ofSinks other) happenings start).1.channels[channel]? =
      start.1.channels[channel]?.map fun held =>
        if .dropped channel ∈ happenings then none
        else held.map (· ++ eventsSent channel (fannedOut tree.leaves (callbacksOf happenings)))
  /-- A new receiver whose sender is there once holds just the events of all callbacks. -/
  live : ∀ channel : Nat, tree.leaves.countP (sendsTo channel) = 1 →
    start.1.channels[channel]? = some (some []) → .dropped channel ∉ happenings →
    (tree.run (.ofSinks other) happenings start).1.channels[channel]? =
      some (some ((callbacksOf happenings).filterMap Event.ofCallback?))
  /-- They are one event for each callback that is no start, in order, and tell of it. -/
  carried : ∀ channel : Nat, tree.leaves.countP (sendsTo channel) = 1 →
    start.1.channels[channel]? = some (some []) → .dropped channel ∉ happenings →
    ∃ events, (tree.run (.ofSinks other) happenings start).1.channels[channel]? =
        some (some events) ∧
      List.Forall₂ Event.Tells
        ((callbacksOf happenings).filter fun callback => !callback.isStart) events
  /-- Had a receiver not gone away, nothing would be different but what it holds. -/
  apart : ∀ channel, AgreeApart channel (tree.run (.ofSinks other) happenings start)
    (tree.run (.ofSinks other) (happenings.filter (· ≠ .dropped channel)) start)
  /-- Nor would the leaves be told anything different. -/
  undisturbed : ∀ channel,
    (tree.run (Behaviour.ofSinks other).logged (happenings.filter (· ≠ .dropped channel))
        (start, [])).2 =
      (tree.run (Behaviour.ofSinks other).logged happenings (start, [])).2

/-- **A tree of monitors is the list of its leaves.** Whatever the leaves are and whatever happens,
every leaf gets every callback once and in order, a receiver holds the events of them all for as
long as it is there, and nobody else notices when it goes away. -/
theorem MonitorTree.fansOut (tree : MonitorTree (Sink ⊕ μ)) (other : μ → Callback → υ → υ)
    (happenings : List Happening) (start : Outlets × υ) :
    tree.FansOut other happenings start where
  flat := run_eq_of_leaves_eq _ tree.leaves_flat happenings _
  reached := run_logged _ tree happenings start []
  once which h := reaching_fannedOut_of_countP_eq_one h _
  channels channel := channels_run other channel tree happenings start
  live channel hcount hnew hstays := channels_run_of_countP_eq_one other channel hcount hnew hstays
  carried channel hcount hnew hstays :=
    ⟨_, channels_run_of_countP_eq_one other channel hcount hnew hstays, Event.forall₂_filterMap _⟩
  apart channel := (AgreeApart.refl channel start).run other tree happenings
  undisturbed channel := by
    rw [run_logged, run_logged, callbacksOf_filter_dropped]

example (gone late : Error) :
    let tree : MonitorTree (Sink ⊕ Empty) := .composite
      [.composite [], .leaf (.inl (.send 0)), .composite [.leaf (.inl (.send 1))]]
    (tree.run (.ofSinks fun _ _ w => w) [.told (.error gone), .dropped 0, .told (.error late)]
        ({ channels := [some [], some []] }, ())).1.channels =
      [none, some [.error gone.message, .error late.message]] := rfl

end QueryLayer
