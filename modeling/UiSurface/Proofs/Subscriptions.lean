import Mathlib.Data.List.Induction
import UiSurface.Proofs.Listening

/-!
# Subscriptions and their callables

Each subscription comes with a callable that ends it, and all that the callable holds is the listener: it
takes away the first of those who listen that is the same.  Called for the first time, it ends a
subscription of this listener, which does for its own, as nobody can tell two of them apart.  Called once
more, it should do nothing, and does nothing unless the same listener has another subscription: then it
ends that one, whose callable was never called.

So the subscriptions that should be active are those that are, at every time of a run, exactly if no
callable is called again while its listener has an active subscription.

Main lemmas: `active_iff` (from when to when a subscription should be active), `perm_make_iff` (one move),
`perm_afterMoves` (a run), `count_afterMoves_le` (no move leaves too much), `calls_deliver` (what
those who listen are told), `callables_end_their_own_unless_stray`.
-/

namespace UiSurface.Store

/-! ## Moves -/

/-- Somebody subscribes, or calls the callable of a subscription.  Subscriptions are numbered in the order
in which they are made. -/
inductive Move where
  | subscribe (l : Listener)
  | cancel (n : Nat)
deriving DecidableEq

/-- A store, and of each subscription so far the listener, which is what its callable holds. -/
structure Desk where
  store : Store
  held : List Listener

/-- A desk after a move.  There is no callable of a subscription that was not made. -/
def Desk.make (d : Desk) : Move → Desk
  | .subscribe l => ⟨d.store.subscribe l, d.held ++ [l]⟩
  | .cancel n =>
    match d.held[n]? with
    | some l => { d with store := d.store.cancel l }
    | none => d

/-- The desk of a store after moves.  Those who listen from the start have the first subscriptions. -/
def desk (s : Store) (moves : List Move) : Desk := moves.foldl Desk.make ⟨s, s.listeners⟩

def afterMoves (s : Store) (moves : List Move) : Store := (s.desk moves).store

/-! ## Subscriptions as they should be -/

/-- A subscription, and whether it should be active. -/
structure Subscription where
  listener : Listener
  active : Bool

def Subscription.ended (sub : Subscription) : Subscription := { sub with active := false }

/-- Subscriptions after a move: one more is active, or one is ended. -/
def noted (subs : List Subscription) : Move → List Subscription
  | .subscribe l => subs ++ [⟨l, true⟩]
  | .cancel n => subs.modify n Subscription.ended

/-- The subscriptions that moves make, beginning with those who listen from the start. -/
def subscriptions (s : Store) (moves : List Move) : List Subscription :=
  moves.foldl noted (s.listeners.map fun l => ⟨l, true⟩)

/-- The listeners of the subscriptions that should be active. -/
def activeListeners (subs : List Subscription) : List Listener :=
  (subs.filter Subscription.active).map Subscription.listener

/-- A call of a callable that was called before, while its listener has an active subscription. -/
def Stray (subs : List Subscription) : Move → Prop
  | .subscribe _ => False
  | .cancel n => ∃ sub ∈ subs[n]?, sub.active = false ∧ sub.listener ∈ activeListeners subs

instance (subs : List Subscription) : DecidablePred (Stray subs)
  | .subscribe _ => isFalse id
  | .cancel n => inferInstanceAs
    (Decidable (∃ sub ∈ subs[n]?, sub.active = false ∧ sub.listener ∈ activeListeners subs))

variable (s : Store)

@[simp] theorem subscriptions_nil :
    subscriptions s [] = s.listeners.map fun l => ⟨l, true⟩ := rfl

@[simp] theorem subscriptions_snoc (moves : List Move) (move : Move) :
    subscriptions s (moves ++ [move]) = noted (subscriptions s moves) move := by
  simp [subscriptions]

@[simp] theorem activeListeners_append (subs others : List Subscription) :
    activeListeners (subs ++ others) = activeListeners subs ++ activeListeners others := by
  simp [activeListeners]

@[simp] theorem activeListeners_cons (sub : Subscription) (subs : List Subscription) :
    activeListeners (sub :: subs) =
      if sub.active then sub.listener :: activeListeners subs else activeListeners subs := by
  unfold activeListeners
  rw [List.filter_cons]
  split <;> rfl

@[simp] theorem activeListeners_nil : activeListeners [] = [] := rfl

/-- A subscription among the others, and what is left of it when it is ended. -/
theorem split_of_getElem? {subs : List Subscription} {n : Nat} {sub : Subscription}
    (h : subs[n]? = some sub) : ∃ earlier later,
      subs = earlier ++ sub :: later ∧
      subs.modify n Subscription.ended = earlier ++ sub.ended :: later := by
  obtain ⟨hn, hsub⟩ := List.getElem?_eq_some_iff.mp h
  obtain ⟨earlier, found, later, hsplit, hlength, hmodify⟩ :=
    List.exists_of_modify Subscription.ended hn
  have hfound : found = sub := by
    subst hlength
    simpa [hsplit] using hsub
  exact ⟨earlier, later, by rw [hsplit, hfound], by rw [hmodify, hfound]⟩

/-- A subscription is made, at the start or by a move, and its callable is not called after that. -/
def IsOpen (moves : List Move) (n : Nat) (l : Listener) : Prop :=
  (s.listeners[n]? = some l ∧ Move.cancel n ∉ moves) ∨
  ∃ before after, moves = before ++ .subscribe l :: after ∧
    (subscriptions s before).length = n ∧ Move.cancel n ∉ after

/-- One subscription, by its number, after a move. -/
theorem getElem?_noted (subs : List Subscription) (move : Move) (n : Nat) (l : Listener) :
    (noted subs move)[n]? = some ⟨l, true⟩ ↔
      (move = .subscribe l ∧ subs.length = n) ∨
      (move ≠ .cancel n ∧ subs[n]? = some ⟨l, true⟩) := by
  cases move with
  | subscribe k =>
    rw [noted, List.getElem?_append]
    split
    · rename_i hlt
      simp [Nat.ne_of_gt hlt]
    · rename_i hge
      rw [List.getElem?_eq_none (Nat.le_of_not_lt hge), List.getElem?_singleton]
      split <;> simp <;> omega
  | cancel k =>
    rw [noted, List.getElem?_modify]
    by_cases hk : k = n <;> simp [hk, Subscription.ended]

/-- A subscription is open if it was just made, or was open and is not canceled. -/
theorem isOpen_snoc (moves : List Move) (move : Move) (n : Nat) (l : Listener) :
    s.IsOpen (moves ++ [move]) n l ↔
      (move = .subscribe l ∧ (subscriptions s moves).length = n) ∨
      (move ≠ .cancel n ∧ s.IsOpen moves n l) := by
  constructor
  · rintro (⟨hstart, hnot⟩ | ⟨before, after, hsplit, hlength, hnot⟩)
    · simp only [List.mem_append, List.mem_singleton, not_or] at hnot
      exact Or.inr ⟨Ne.symm hnot.2, Or.inl ⟨hstart, hnot.1⟩⟩
    · -- the last move makes it, or one before
      rcases List.eq_nil_or_concat after with rfl | ⟨after, last, rfl⟩
      · obtain ⟨rfl, hmove⟩ := List.append_inj' hsplit rfl
        exact Or.inl ⟨List.singleton_inj.mp hmove, hlength⟩
      · rw [List.concat_eq_append] at hsplit hnot
        rw [← List.cons_append, ← List.append_assoc] at hsplit
        obtain ⟨rfl, hlast⟩ := List.append_inj' hsplit rfl
        obtain rfl := List.singleton_inj.mp hlast
        simp only [List.mem_append, List.mem_singleton, not_or] at hnot
        exact Or.inr ⟨Ne.symm hnot.2, Or.inr ⟨before, after, rfl, hlength, hnot.1⟩⟩
  · rintro (⟨rfl, hlength⟩ | ⟨hmove, ⟨hstart, hnot⟩ | ⟨before, after, rfl, hlength, hnot⟩⟩)
    · exact Or.inr ⟨moves, [], rfl, hlength, List.not_mem_nil⟩
    · exact Or.inl ⟨hstart, by simp [hnot, Ne.symm hmove]⟩
    · exact Or.inr ⟨before, after ++ [move], by simp, hlength, by simp [hnot, Ne.symm hmove]⟩

/-- A subscription should be active from when it is made until its callable is called. -/
theorem active_iff (moves : List Move) (n : Nat) (l : Listener) :
    (subscriptions s moves)[n]? = some ⟨l, true⟩ ↔ s.IsOpen moves n l := by
  induction moves using List.reverseRecOn with
  | nil => simp [IsOpen]
  | append_singleton moves move ih =>
    rw [subscriptions_snoc, getElem?_noted, isOpen_snoc, ih]

/-! ## One move -/

/-- What a callable holds is the listener of its subscription. -/
def Holds (d : Desk) (subs : List Subscription) : Prop :=
  d.held = subs.map Subscription.listener

/-- What a move can do: a listener comes last, or there is no such callable, or the callable is called
for the first time, or once more.  Each time the callable takes away the first of its listener. -/
theorem make_cases {d : Desk} {subs : List Subscription} (hholds : Holds d subs) (move : Move) :
    (∃ l, move = .subscribe l ∧
      (d.make move).store.listeners = d.store.listeners ++ [l] ∧
      noted subs move = subs ++ [⟨l, true⟩]) ∨
    (∃ n, move = .cancel n ∧ subs[n]? = none ∧
      (d.make move).store.listeners = d.store.listeners ∧ noted subs move = subs) ∨
    (∃ n l earlier later, move = .cancel n ∧ subs[n]? = some ⟨l, true⟩ ∧
      subs = earlier ++ ⟨l, true⟩ :: later ∧
      (d.make move).store.listeners = d.store.listeners.erase l ∧
      noted subs move = earlier ++ ⟨l, false⟩ :: later) ∨
    (∃ n l, move = .cancel n ∧ subs[n]? = some ⟨l, false⟩ ∧
      (d.make move).store.listeners = d.store.listeners.erase l ∧ noted subs move = subs) := by
  cases move with
  | subscribe l => exact Or.inl ⟨l, rfl, rfl, rfl⟩
  | cancel n =>
    have hheld : d.held[n]? = subs[n]?.map Subscription.listener := by rw [hholds, List.getElem?_map]
    cases hsub : subs[n]? with
    | none =>
      refine Or.inr (Or.inl ⟨n, rfl, hsub, ?_, ?_⟩)
      · simp [Desk.make, hheld, hsub]
      · exact List.modify_eq_self (List.getElem?_eq_none_iff.mp hsub)
    | some sub =>
      obtain ⟨l, active⟩ := sub
      have htaken : (d.make (.cancel n)).store.listeners = d.store.listeners.erase l := by
        simp [Desk.make, hheld, hsub, Store.cancel]
      obtain ⟨earlier, later, hsplit, hended⟩ := split_of_getElem? hsub
      cases active with
      | true => exact Or.inr (Or.inr (Or.inl ⟨n, l, earlier, later, rfl, hsub, hsplit, htaken, hended⟩))
      | false => exact Or.inr (Or.inr (Or.inr ⟨n, l, rfl, hsub, htaken, hended.trans hsplit.symm⟩))

/-- What callables hold is kept by every move. -/
theorem holds_make {d : Desk} {subs : List Subscription} (hholds : Holds d subs) (move : Move) :
    Holds (d.make move) (noted subs move) := by
  cases move with
  | subscribe l =>
    unfold Holds at hholds ⊢
    simp [Desk.make, noted, hholds]
  | cancel n =>
    have hkept : (d.make (.cancel n)).held = d.held := by
      simp only [Desk.make]
      split <;> rfl
    rw [Holds, hkept, hholds]
    -- a callable goes on holding its listener, whatever calling it does
    rcases make_cases hholds (.cancel n) with
      ⟨l, hmove, -⟩ | ⟨m, -, -, -, hnoted⟩ | ⟨m, l, earlier, later, -, -, hsplit, -, hnoted⟩ |
      ⟨m, l, -, -, -, hnoted⟩
    · cases hmove
    · rw [hnoted]
    · rw [hnoted, hsplit]
      simp
    · rw [hnoted]

/-- Only the listeners of a store change. -/
theorem store_make (d : Desk) (move : Move) :
    (d.make move).store = { d.store with listeners := (d.make move).store.listeners } := by
  cases move with
  | subscribe l => rfl
  | cancel n =>
    simp only [Desk.make]
    split <;> rfl

/-- If those who listen have the active subscriptions, then after a move they still do, exactly if the
move is not stray. -/
theorem perm_make_iff {d : Desk} {subs : List Subscription} (hholds : Holds d subs)
    (hperm : d.store.listeners.Perm (activeListeners subs)) (move : Move) :
    (d.make move).store.listeners.Perm (activeListeners (noted subs move)) ↔ ¬ Stray subs move := by
  rcases make_cases hholds move with
    ⟨l, rfl, hmade, hnoted⟩ | ⟨n, rfl, hnone, hsame, hnoted⟩ |
    ⟨n, l, earlier, later, rfl, hsub, hsplit, htaken, hnoted⟩ | ⟨n, l, rfl, hsub, htaken, hnoted⟩
  · have hnext := hperm.append_right [l]
    simpa [Stray, hmade, hnoted] using hnext
  · simp [Stray, hnone, hsame, hnoted, hperm]
  · -- the subscription is active, so taking its listener away is what ending it does
    have hfirst : (activeListeners subs).Perm (l :: activeListeners (noted subs (.cancel n))) := by
      rw [hnoted, hsplit]
      simp [List.perm_middle]
    have herase := (hperm.trans hfirst).erase l
    simpa [Stray, hsub, htaken] using herase
  · -- the callable was called before: it is stray just if its listener is still there
    have hstray : Stray subs (.cancel n) ↔ l ∈ d.store.listeners := by
      simp [Stray, hsub, hperm.mem_iff]
    rw [htaken, hnoted, hstray]
    constructor
    · intro hleft hmem
      have hshorter := List.length_erase_of_mem hmem
      have hpos := List.length_pos_of_mem hmem
      have hsame := (hleft.trans hperm.symm).length_eq
      omega
    · intro habsent
      rwa [List.erase_of_not_mem habsent]

/-- A stray move ends a subscription of the same listener whose callable was not called. -/
theorem perm_make_of_stray {d : Desk} {subs : List Subscription} (hholds : Holds d subs)
    (hperm : d.store.listeners.Perm (activeListeners subs)) {move : Move} (h : Stray subs move) :
    ∃ n l, move = .cancel n ∧ subs[n]? = some ⟨l, false⟩ ∧
      (activeListeners (noted subs move)).Perm (l :: (d.make move).store.listeners) := by
  rcases make_cases hholds move with
    ⟨l, rfl, -⟩ | ⟨n, rfl, hnone, -⟩ | ⟨n, l, -, -, rfl, hsub, -⟩ | ⟨n, l, rfl, hsub, htaken, hnoted⟩
  · exact h.elim
  · simp [Stray, hnone] at h
  · simp [Stray, hsub] at h
  · have hmem : l ∈ activeListeners subs := by simpa [Stray, hsub] using h
    refine ⟨n, l, rfl, hsub, ?_⟩
    rw [hnoted, htaken]
    exact hperm.symm.trans (List.perm_cons_erase (hperm.mem_iff.mpr hmem))

/-- No move leaves a listener more often than it has active subscriptions. -/
theorem count_make_le {d : Desk} {subs : List Subscription} (hholds : Holds d subs)
    (h : ∀ l, d.store.listeners.count l ≤ (activeListeners subs).count l) (move : Move)
    (l : Listener) :
    (d.make move).store.listeners.count l ≤ (activeListeners (noted subs move)).count l := by
  have hl := h l
  rcases make_cases hholds move with
    ⟨k, rfl, hmade, hnoted⟩ | ⟨n, rfl, -, hsame, hnoted⟩ |
    ⟨n, k, earlier, later, rfl, -, hsplit, htaken, hnoted⟩ | ⟨n, k, rfl, -, htaken, hnoted⟩
  · rw [hmade, hnoted]
    simpa using hl
  · rwa [hsame, hnoted]
  · rw [htaken, hnoted, List.count_erase]
    simp only [hsplit, activeListeners_append, activeListeners_cons, List.count_append,
      if_true, List.count_cons, Bool.false_eq_true, if_false] at hl ⊢
    omega
  · rw [htaken, hnoted]
    exact Nat.le_trans (List.erase_sublist.count_le l) hl

/-- Where all listeners are different, one subscription does not have the listener of another. -/
theorem not_mem_activeListeners {earlier later : List Subscription} {sub : Subscription}
    (h : ((earlier ++ sub :: later).map Subscription.listener).Nodup) :
    sub.listener ∉ activeListeners earlier ∧ sub.listener ∉ activeListeners later := by
  have hmade : ∀ {l subs}, l ∈ activeListeners subs → l ∈ subs.map Subscription.listener :=
    fun hl => (List.filter_sublist.map Subscription.listener).mem hl
  rw [List.map_append, List.map_cons] at h
  obtain ⟨-, hlater, happart⟩ := List.nodup_append.mp h
  exact ⟨fun hl => happart _ (hmade hl) _ List.mem_cons_self rfl,
    fun hl => (List.nodup_cons.mp hlater).1 (hmade hl)⟩

/-- Where all listeners are different, a callable takes away that of its own subscription. -/
theorem eq_make {d : Desk} {subs : List Subscription} (hholds : Holds d subs)
    (hdistinct : (subs.map Subscription.listener).Nodup)
    (h : d.store.listeners = activeListeners subs) (move : Move) :
    (d.make move).store.listeners = activeListeners (noted subs move) := by
  rcases make_cases hholds move with
    ⟨l, rfl, hmade, hnoted⟩ | ⟨n, rfl, -, hsame, hnoted⟩ |
    ⟨n, l, earlier, later, rfl, -, hsplit, htaken, hnoted⟩ | ⟨n, l, rfl, hsub, htaken, hnoted⟩
  · rw [hmade, hnoted, h]
    simp
  · rw [hsame, hnoted, h]
  · obtain ⟨hnot, -⟩ := not_mem_activeListeners (hsplit ▸ hdistinct)
    rw [htaken, hnoted, h, hsplit]
    simp [List.erase_append_right _ hnot]
  · obtain ⟨earlier, later, hsplit, -⟩ := split_of_getElem? hsub
    have hnot := not_mem_activeListeners (hsplit ▸ hdistinct)
    rw [htaken, hnoted, h, hsplit, List.erase_of_not_mem (by simp [hnot])]

/-! ## Runs -/

@[simp] theorem desk_snoc (moves : List Move) (move : Move) :
    s.desk (moves ++ [move]) = (s.desk moves).make move := by
  simp [desk]

/-- At the start, those who listen have the active subscriptions. -/
theorem activeListeners_start :
    activeListeners (subscriptions s []) = (s.afterMoves []).listeners := by
  simp [activeListeners, List.filter_map, Function.comp_def, afterMoves, desk]

theorem holds_desk (moves : List Move) : Holds (s.desk moves) (subscriptions s moves) := by
  induction moves using List.reverseRecOn with
  | nil => simp [Holds, desk, Function.comp_def]
  | append_singleton moves move ih =>
    rw [desk_snoc, subscriptions_snoc]
    exact holds_make ih move

/-- No move of a run is stray when it is made. -/
def NoStray (moves : List Move) : Prop :=
  ∀ n (h : n < moves.length), ¬ Stray (subscriptions s (moves.take n)) moves[n]

instance (moves : List Move) : Decidable (s.NoStray moves) :=
  inferInstanceAs
    (Decidable (∀ n (h : n < moves.length), ¬ Stray (subscriptions s (moves.take n)) moves[n]))

theorem noStray_snoc (moves : List Move) (move : Move) :
    s.NoStray (moves ++ [move]) ↔ s.NoStray moves ∧ ¬ Stray (subscriptions s moves) move := by
  constructor
  · intro h
    refine ⟨fun n hn => ?_, ?_⟩
    · have hbefore := h n (by simp; omega)
      rwa [List.take_append_of_le_length (Nat.le_of_lt hn), List.getElem_append_left hn] at hbefore
    · have hlast := h moves.length (by simp)
      rwa [List.take_left, List.getElem_concat_length rfl] at hlast
  · rintro ⟨hmoves, hlast⟩ n hn
    rcases Nat.lt_or_eq_of_le (Nat.le_of_lt_succ (by simpa using hn)) with hn | rfl
    · rw [List.take_append_of_le_length (Nat.le_of_lt hn), List.getElem_append_left hn]
      exact hmoves n hn
    · rwa [List.take_left, List.getElem_concat_length rfl]

theorem NoStray.of_append {moves later : List Move} (h : s.NoStray (moves ++ later)) :
    s.NoStray moves := by
  induction later using List.reverseRecOn with
  | nil => simpa using h
  | append_singleton later move ih =>
    rw [← List.append_assoc] at h
    exact ih ((s.noStray_snoc _ move).mp h).1

/-- Without a stray move, those who listen after a run have the active subscriptions. -/
theorem perm_afterMoves {moves : List Move} (h : s.NoStray moves) :
    (s.afterMoves moves).listeners.Perm (activeListeners (subscriptions s moves)) := by
  induction moves using List.reverseRecOn with
  | nil => rw [activeListeners_start]
  | append_singleton moves move ih =>
    obtain ⟨hmoves, hlast⟩ := (s.noStray_snoc moves move).mp h
    rw [afterMoves, desk_snoc, subscriptions_snoc]
    exact (perm_make_iff (s.holds_desk moves) (ih hmoves) move).mpr hlast

/-- Nobody listens more often than there are active subscriptions. -/
theorem count_afterMoves_le (moves : List Move) (l : Listener) :
    (s.afterMoves moves).listeners.count l ≤
      (activeListeners (subscriptions s moves)).count l := by
  induction moves using List.reverseRecOn generalizing l with
  | nil => exact s.activeListeners_start ▸ Nat.le_refl _
  | append_singleton moves move ih =>
    rw [afterMoves, desk_snoc, subscriptions_snoc]
    exact count_make_le (s.holds_desk moves) ih move l

/-- Subscriptions are made one after the other. -/
theorem made_prefix (moves later : List Move) :
    (subscriptions s moves).map Subscription.listener <+:
      (subscriptions s (moves ++ later)).map Subscription.listener := by
  induction later using List.reverseRecOn with
  | nil => simp
  | append_singleton later move ih =>
    refine ih.trans ?_
    rw [← List.append_assoc, subscriptions_snoc, ← s.holds_desk, ← holds_make (s.holds_desk _)]
    cases move with
    | subscribe l => exact List.prefix_append _ _
    | cancel n =>
      simp only [Desk.make]
      split <;> exact List.prefix_rfl

/-- Where all listeners are different, those listen, in order, who have an active subscription. -/
theorem eq_afterMoves {moves : List Move}
    (hdistinct : ((subscriptions s moves).map Subscription.listener).Nodup) :
    (s.afterMoves moves).listeners = activeListeners (subscriptions s moves) := by
  induction moves using List.reverseRecOn with
  | nil => rw [activeListeners_start]
  | append_singleton moves move ih =>
    have hbefore := hdistinct.sublist (s.made_prefix moves [move]).sublist
    rw [afterMoves, desk_snoc, subscriptions_snoc]
    exact eq_make (s.holds_desk moves) hbefore (ih hbefore) move

/-- Moves change nothing but who listens. -/
theorem afterMoves_frame (moves : List Move) :
    s.afterMoves moves = { s with listeners := (s.afterMoves moves).listeners } := by
  induction moves using List.reverseRecOn with
  | nil => rfl
  | append_singleton moves move ih =>
    have hstep := store_make (s.desk moves) move
    rw [← desk_snoc] at hstep
    rw [afterMoves, hstep, ← afterMoves, ih]

/-! ## What subscriptions are for -/

/-- Those who listen are called about a message that is accepted. -/
theorem calls_deliver (d : Delivery) : ∃ told, (s.deliver d).1.calls = s.calls ++ told ∧
    told.map Call.listener = if (s.deliver d).2.isAccepted then s.audience else [] := by
  rcases s.deliver_cases_notify d with
    ⟨hrefused, hdeliver⟩ | ⟨m, changed, -, haccepted, hdeliver, hlisteners, hcalls⟩
  · exact ⟨[], by simp [hdeliver], by simp [hrefused]⟩
  · refine ⟨_, by rw [hdeliver, notify_eq_told, hcalls], ?_⟩
    simp [haccepted, hlisteners, audience, told, Function.comp_def]

/-- Those who listen have the active subscriptions: each message that is accepted is told once for each
of them, and for no other. -/
def Serves (subs : List Subscription) : Prop :=
  s.listeners.Perm (activeListeners subs) ∧
  ∀ d, ∃ told, (s.deliver d).1.calls = s.calls ++ told ∧
    (told.map Call.listener).Perm
      (if (s.deliver d).2.isAccepted then (activeListeners subs).map Listener.name else [])

/-- To serve the subscriptions is to have their listeners. -/
theorem serves_iff (subs : List Subscription) :
    s.Serves subs ↔ s.listeners.Perm (activeListeners subs) := by
  refine ⟨And.left, fun hperm => ⟨hperm, fun d => ?_⟩⟩
  obtain ⟨told, hcalls, hnames⟩ := s.calls_deliver d
  refine ⟨told, hcalls, ?_⟩
  rw [hnames]
  split
  · exact hperm.map Listener.name
  · exact List.Perm.refl []

/-- The callable of a subscription ends it, and ends no other unless it is called again while its
listener has another that is active.  A subscription should be active from when it is made until its
callable is called.  Moves change nothing of a store but who listens, and leave no listener more often
than it has active subscriptions.  At every time of a run the active subscriptions are served, exactly if
no move is stray, and the first stray move ends one subscription too many.  Where all listeners are
different, those listen, in order, who have an active subscription. -/
theorem callables_end_their_own_unless_stray (s : Store) (moves : List Move) :
    s.afterMoves moves = { s with listeners := (s.afterMoves moves).listeners } ∧
    (∀ n l, (subscriptions s moves)[n]? = some ⟨l, true⟩ ↔ s.IsOpen moves n l) ∧
    (∀ l, (s.afterMoves moves).listeners.count l ≤
      (activeListeners (subscriptions s moves)).count l) ∧
    ((∀ earlier, earlier <+: moves → (s.afterMoves earlier).Serves (subscriptions s earlier)) ↔
      s.NoStray moves) ∧
    (∀ move, s.NoStray moves → Stray (subscriptions s moves) move →
      ∃ n l, move = .cancel n ∧ (subscriptions s moves)[n]? = some ⟨l, false⟩ ∧
        (activeListeners (subscriptions s (moves ++ [move]))).Perm
          (l :: (s.afterMoves (moves ++ [move])).listeners)) ∧
    (((subscriptions s moves).map Subscription.listener).Nodup →
      ∀ earlier, earlier <+: moves →
        (s.afterMoves earlier).listeners = activeListeners (subscriptions s earlier)) := by
  refine ⟨s.afterMoves_frame moves, s.active_iff moves, s.count_afterMoves_le moves, ⟨?_, ?_⟩, ?_, ?_⟩
  · intro hserves n hn
    -- a move is judged by what is served before it and behind it
    have hbefore := hserves (moves.take n) (List.take_prefix n moves)
    have hafter := hserves (moves.take (n + 1)) (List.take_prefix (n + 1) moves)
    rw [serves_iff] at hbefore hafter
    rw [List.take_succ_eq_append_getElem hn, afterMoves, desk_snoc, subscriptions_snoc] at hafter
    exact (perm_make_iff (s.holds_desk _) hbefore _).mp hafter
  · rintro hnone earlier ⟨later, rfl⟩
    exact (serves_iff _ _).mpr (s.perm_afterMoves hnone.of_append)
  · intro move hnone hstray
    rw [afterMoves, desk_snoc, subscriptions_snoc]
    exact perm_make_of_stray (s.holds_desk moves) (s.perm_afterMoves hnone) hstray
  · rintro hdistinct earlier ⟨later, rfl⟩
    exact s.eq_afterMoves (hdistinct.sublist (s.made_prefix earlier later).sublist)

/-- A guest goes, its callable is called once more, and it comes again: this is well.  Called yet again,
the callable of its first subscription ends the second. -/
theorem guest_is_served_until_a_stray_move :
    let guest : Listener := ⟨0, "guest", .none⟩
    let clerk : Listener := ⟨1, "clerk", .none⟩
    let moves : List Move :=
      [.subscribe guest, .subscribe clerk, .cancel 0, .cancel 0, .subscribe guest]
    let last : Move := .cancel 0
    (∀ earlier, earlier <+: moves →
      ((empty false).afterMoves earlier).Serves (subscriptions (empty false) earlier)) ∧
    activeListeners (subscriptions (empty false) (moves ++ [last])) = [clerk, guest] ∧
    (∃ l, [clerk, guest].Perm (l :: ((empty false).afterMoves (moves ++ [last])).listeners)) ∧
    ((empty false).afterMoves (moves.take 4)).listeners = [clerk] := by
  intro guest clerk moves last
  obtain ⟨-, -, -, hserves, hstray, -⟩ := callables_end_their_own_unless_stray (empty false) moves
  obtain ⟨-, -, -, -, -, hdistinct⟩ :=
    callables_end_their_own_unless_stray (empty false) (moves.take 4)
  have hnone : (empty false).NoStray moves := by decide
  obtain ⟨n, l, -, -, hlost⟩ := hstray last hnone (by decide)
  exact ⟨hserves.mpr hnone, by decide, ⟨l, hlost⟩, hdistinct (by decide) _ List.prefix_rfl⟩

/-- A listener with two subscriptions has none left when the first of their callables is called twice,
though the second was not called: a message that is accepted is told to nobody. -/
theorem twice_called_callable_ends_another :
    let guest : Listener := ⟨0, "guest", .none⟩
    let moves : List Move := [.subscribe guest, .subscribe guest, .cancel 0, .cancel 0]
    (empty false).IsOpen moves 1 guest ∧
      ((empty false).afterMoves moves).listeners = [] ∧
      ¬ ((empty false).afterMoves moves).Serves (subscriptions (empty false) moves) ∧
      let served := ((empty false).afterMoves moves).apply (.createSurface "tile" .null .null [])
      served.2.isAccepted = true ∧ served.1.calls = [] := by
  intro guest moves
  have hnobody : ((empty false).afterMoves moves).listeners = [] := by decide
  refine ⟨?_, hnobody, ?_, by decide +kernel⟩
  · exact Or.inr ⟨[.subscribe guest], [.cancel 0, .cancel 0], rfl, by decide, by decide⟩
  · rw [serves_iff, hnobody, List.nil_perm]
    decide

end UiSurface.Store
