import UiSurface.Proofs.Course
import UiSurface.Proofs.Delays

/-!
# Pacing — when a client waits, and when it gives up

A client that nobody stops counts its failures in a row.  An attempt that is refused is one failure more,
and a connection that was lost is the first since it was there.  After each failure the client sleeps, for
the square of their number in seconds or for the cap if that is smaller; the failure that completes the
number of attempts ends the run instead.

Main lemmas: `Course.Paced.step` (one step keeps the pace), `le_failuresAfter`, `client_sleeps_or_gives_up`.
-/

namespace UiSurface

/-! ## Failures in a row -/

/-- An attempt of a script; past its end, attempts are refused. -/
def attemptAt (attempts : List Attempt) (n : Nat) : Attempt := attempts[n]?.getD .refused

/-- The failures in a row after a number of attempts.  Every connection is lost in the end. -/
def failuresAfter (attempts : List Attempt) : Nat → Nat
  | 0 => 0
  | n + 1 => match attemptAt attempts n with
    | .refused => failuresAfter attempts n + 1
    | .connected _ => 1

/-- The seconds to sleep after a number of attempts: the square of the failures, or the cap if that is
smaller.  There are none if that is an integer too large for a double. -/
def pauseAfter (attempts : List Attempt) (cap : Number) (n : Nat) : Option Binary64 :=
  (Number.least (.int (failuresAfter attempts n * failuresAfter attempts n : Nat)) cap).toBinary64?

section Failures

variable {attempts : List Attempt}

/-- An attempt that is refused is one more failure in a row. -/
theorem failuresAfter_of_refused {n : Nat} (h : attemptAt attempts n = .refused) :
    failuresAfter attempts (n + 1) = failuresAfter attempts n + 1 := by simp [failuresAfter, h]

/-- A connection that was lost is the first failure of a new row. -/
theorem failuresAfter_of_connected {n : Nat} {link : Link} (h : attemptAt attempts n = .connected link) :
    failuresAfter attempts (n + 1) = 1 := by simp [failuresAfter, h]

/-- The wait of a client that has so many failures. -/
theorem delay_failuresAfter (attempts : List Attempt) (cap : Number) (n : Nat) :
    Backoff.delay (.int (failuresAfter attempts n)) cap = match pauseAfter attempts cap n with
      | some seconds => .ok seconds
      | none => .error ⟨⟩ := by
  have hpause : (Number.least (Number.int (failuresAfter attempts n)).square cap).toBinary64? =
      pauseAfter attempts cap n := by rw [Number.square, pauseAfter, Int.natCast_mul]
  cases h : pauseAfter attempts cap n <;> simp only [Backoff.delay, hpause, h]

theorem failuresAfter_pos (n : Nat) : 0 < failuresAfter attempts (n + 1) := by
  unfold failuresAfter
  split <;> omega

/-- Where none of the attempts in between connects, there are at least as many failures. -/
theorem le_failuresAfter {first count : Nat}
    (h : ∀ i, first < i → i < first + count → attemptAt attempts i = .refused) :
    count ≤ failuresAfter attempts (first + count) := by
  induction count with
  | zero => exact Nat.zero_le _
  | succ count ih =>
    rcases Nat.eq_zero_or_pos count with rfl | hpos
    · exact failuresAfter_pos first
    · have hbefore := ih fun i hfirst hlast => h i hfirst (by omega)
      have hafter := failuresAfter_of_refused (h (first + count) (by omega) (by omega))
      rw [← Nat.add_assoc, hafter]
      omega

end Failures

/-! ## The pace of a run -/

/-- What a client with a number of attempts and a cap has done so far, when it has slept after every
attempt but possibly the last. -/
structure Client.Paced (attempts : List Attempt) (maxAttempts : Int) (cap : Number) (c : Client) :
    Prop where
  awake : c.stopping = false
  maxAttempts_eq : c.maxAttempts = maxAttempts
  maxDelay_eq : c.maxDelay = cap
  delays : c.delays.map some = (List.range' 1 c.waits.sleeps).map (pauseAfter attempts cap)
  few : ∀ n ≤ c.waits.sleeps, (failuresAfter attempts n : Int) < maxAttempts

/-- What the pace of a client is told by. -/
def Client.pace (c : Client) : Bool × Int × Number × List Binary64 × Nat :=
  (c.stopping, c.maxAttempts, c.maxDelay, c.delays, c.waits.sleeps)

/-- The pace of a client is told by what it counts. -/
theorem Client.Paced.congr {attempts : List Attempt} {maxAttempts : Int} {cap : Number} {c d : Client}
    (h : c.Paced attempts maxAttempts cap) (hpace : d.pace = c.pace) :
    d.Paced attempts maxAttempts cap := by
  simp only [pace, Prod.mk.injEq] at hpace
  obtain ⟨hstopping, hmax, hcap, hdelays, hsleeps⟩ := hpace
  exact ⟨hstopping.trans h.awake, hmax.trans h.maxAttempts_eq, hcap.trans h.maxDelay_eq,
    by rw [hdelays, hsleeps, h.delays], by rw [hsleeps]; exact h.few⟩

/-- A client that has a connection; the loss of it will be the first failure. -/
def Client.Linked (attempts : List Attempt) (c : Client) : Prop :=
  c.gaveUp = false ∧ c.waits.connects = c.waits.sleeps + 1 ∧ c.failures = 0 ∧
    failuresAfter attempts c.waits.connects = 1

/-- How the failures of a client stand where it is. -/
def Spot.Counts (attempts : List Attempt) (c : Client) : Spot → Prop
  | .connecting attempt =>
    c.gaveUp = false ∧ c.waits.connects = c.waits.sleeps + 1 ∧
      attempt = attemptAt attempts c.waits.sleeps ∧ c.failures = failuresAfter attempts c.waits.sleeps
  | .sending _ | .receiving .. | .losing => c.Linked attempts
  | .sleeping =>
    c.gaveUp = false ∧ c.waits.connects = c.waits.sleeps ∧
      c.failures = failuresAfter attempts c.waits.sleeps
  | .ended none =>
    c.gaveUp = true ∧ c.waits.connects = c.waits.sleeps + 1 ∧
      c.failures = failuresAfter attempts c.waits.connects ∧ c.failures = c.maxAttempts
  | .ended (some (.delay _)) =>
    c.gaveUp = false ∧ c.waits.connects = c.waits.sleeps + 1 ∧
      c.failures = failuresAfter attempts c.waits.connects ∧ c.failures < c.maxAttempts ∧
      pauseAfter attempts c.maxDelay c.waits.connects = none
  | .ended (some (.digits fault)) =>
    c.gaveUp = false ∧ c.waits.connects = c.waits.sleeps + 1 ∧
      ∃ text ∈ attempts.flatMap Attempt.texts, Json.ofText text = .error (.digits fault)

/-- How a client can end after a number of attempts: it gives up after the last failure that it bears, or
it breaks off, because there is no wait or because a text cannot be read. -/
structure EndsAfter (attempts : List Attempt) (maxAttempts : Int) (cap : Number) (n : Nat)
    (gaveUp : Bool) (fault : Option Client.Fault) : Prop where
  gives_up : fault = none → gaveUp = true ∧ failuresAfter attempts n = maxAttempts
  no_wait : ∀ large, fault = some (.delay large) →
    gaveUp = false ∧ failuresAfter attempts n < maxAttempts ∧ pauseAfter attempts cap n = none
  no_reading : ∀ digits, fault = some (.digits digits) → gaveUp = false ∧
    ∃ text ∈ attempts.flatMap Attempt.texts, Json.ofText text = .error (.digits digits)

/-- At its end a client has made one attempt more than it has slept. -/
theorem Spot.Counts.connects_of_end {attempts : List Attempt} {c : Client} {fault : Option Client.Fault}
    (h : (Spot.ended fault).Counts attempts c) : c.waits.connects = c.waits.sleeps + 1 := by
  rcases fault with _ | _ | _
  · exact h.2.1
  · exact h.2.1
  · exact h.2.1

namespace Course

open Client (never)

/-- A run that has kept the pace. -/
structure Paced (attempts : List Attempt) (maxAttempts : Int) (cap : Number) (x : Course) : Prop where
  client : x.client.Paced attempts maxAttempts cap
  rest : x.rest = attempts.drop x.client.waits.connects
  texts : x.toCome <:+ attempts.flatMap Attempt.texts
  counts : x.spot.Counts attempts x.client

section Pace

variable {attempts : List Attempt} {maxAttempts : Int} {cap : Number} {c : Client}

/-- With one failure more the client sleeps, gives up, or finds no wait. -/
theorem paced_retry (h : c.Paced attempts maxAttempts cap) (hgaveUp : c.gaveUp = false)
    (hconnects : c.waits.connects = c.waits.sleeps + 1)
    (hfailures : c.failures + 1 = failuresAfter attempts c.waits.connects)
    (hfew : (c.failures : Int) < maxAttempts)
    (htexts : (attempts.drop c.waits.connects).flatMap Attempt.texts <:+ attempts.flatMap Attempt.texts) :
    (retry c (attempts.drop c.waits.connects)).Paced attempts maxAttempts cap := by
  have hdelay : Backoff.delay (.int c.fail.failures) c.maxDelay =
      match pauseAfter attempts cap c.waits.connects with
      | some seconds => .ok seconds
      | none => .error ⟨⟩ := by
    rw [h.maxDelay_eq, ← delay_failuresAfter, ← hfailures]
    rfl
  have hfail : c.fail.Paced attempts maxAttempts cap := h.congr rfl
  unfold retry
  rw [if_neg (by simp [h.awake]), hdelay]
  -- one attempt more was one too many, or there is a pause to take
  by_cases hlast : c.maxAttempts ≤ c.fail.failures
  · have hcount : ((c.failures + 1 : Nat) : Int) = c.maxAttempts := by
      have := h.maxAttempts_eq
      simp only [Client.fail] at hlast
      omega
    rw [if_pos hlast]
    exact ⟨h.congr rfl, rfl, htexts, rfl, hconnects, hfailures, hcount⟩
  · have hbelow : ((c.failures + 1 : Nat) : Int) < c.maxAttempts := Int.not_le.mp hlast
    rw [if_neg hlast]
    cases hpause : pauseAfter attempts cap c.waits.connects with
    | none =>
      exact ⟨hfail, rfl, htexts, hgaveUp, hconnects, hfailures, hbelow, h.maxDelay_eq ▸ hpause⟩
    | some seconds =>
      refine ⟨⟨h.awake, h.maxAttempts_eq, h.maxDelay_eq, ?_, ?_⟩, rfl, htexts,
        hgaveUp, hconnects, hconnects ▸ hfailures⟩
      · change (c.delays ++ [seconds]).map some = (List.range' 1 (c.waits.sleeps + 1)).map _
        -- the delays so far, and the one behind the last failure
        rw [List.range'_1_concat, List.map_append, List.map_append, h.delays, Nat.add_comm 1,
          ← hconnects, List.map_singleton, List.map_singleton, hpause]
      · intro n hn
        change n ≤ c.waits.sleeps + 1 at hn
        rcases Nat.lt_or_eq_of_le hn with hearlier | rfl
        · exact h.few n (Nat.lt_succ_iff.mp hearlier)
        · rw [← hconnects, ← hfailures, ← h.maxAttempts_eq]
          exact hbelow

/-- A client that nobody stopped turns to the next attempt. -/
theorem paced_tryNext (h : c.Paced attempts maxAttempts cap) (hgaveUp : c.gaveUp = false)
    (hconnects : c.waits.connects = c.waits.sleeps)
    (hfailures : c.failures = failuresAfter attempts c.waits.sleeps)
    (htexts : (attempts.drop c.waits.connects).flatMap Attempt.texts <:+ attempts.flatMap Attempt.texts) :
    (tryNext c (attempts.drop c.waits.connects)).Paced attempts maxAttempts cap := by
  have htoCome := (toCome_tryNext c (attempts.drop c.waits.connects)).symm ▸ htexts
  have hattempt : (attempts.drop c.waits.connects).head?.getD .refused =
      attemptAt attempts c.waits.sleeps := by
    rw [List.head?_drop, hconnects, attemptAt]
  have hawake : ¬ c.stopping = true := by simp [h.awake]
  unfold tryNext at htoCome ⊢
  rw [if_neg hawake] at htoCome ⊢
  exact ⟨h.congr rfl, List.tail_drop .., htoCome, hgaveUp, congrArg (· + 1) hconnects, hattempt,
    hfailures⟩

/-- A client that nobody stopped listens until the link is lost. -/
theorem paced_listen (h : c.Paced attempts maxAttempts cap) (hlinked : c.Linked attempts)
    {texts : List String} (htexts : texts ++ (attempts.drop c.waits.connects).flatMap Attempt.texts <:+
      attempts.flatMap Attempt.texts) :
    (listen c (attempts.drop c.waits.connects) texts).Paced attempts maxAttempts cap := by
  have htoCome := (toCome_listen h.awake (attempts.drop c.waits.connects) texts).symm ▸ htexts
  have hawake : ¬ c.stopping = true := by simp [h.awake]
  cases texts with
  | nil =>
    simp only [listen, if_neg hawake] at htoCome ⊢
    exact ⟨h.congr rfl, rfl, htoCome, hlinked⟩
  | cons text later =>
    simp only [listen, if_neg hawake] at htoCome ⊢
    exact ⟨h.congr rfl, rfl, htoCome, hlinked⟩

/-- A link that is lost is the first failure. -/
theorem paced_hangUp (h : c.Paced attempts maxAttempts cap) (hlinked : c.Linked attempts)
    (htexts : (attempts.drop c.waits.connects).flatMap Attempt.texts <:+ attempts.flatMap Attempt.texts) :
    (retry c.hangUp (attempts.drop c.waits.connects)).Paced attempts maxAttempts cap := by
  obtain ⟨hgaveUp, hconnects, hfailures, hlost⟩ := hlinked
  have hfew : (c.failures : Int) < maxAttempts := by
    simpa [hfailures, failuresAfter] using h.few 0 (Nat.zero_le _)
  have hfirst : c.failures + 1 = failuresAfter attempts c.waits.connects := by rw [hlost, hfailures]
  exact paced_retry (c := c.hangUp) (h.congr rfl) hgaveUp hconnects hfirst hfew htexts

/-- One step keeps the pace. -/
theorem Paced.step {x : Course} (h : x.Paced attempts maxAttempts cap) :
    (x.step never).Paced attempts maxAttempts cap := by
  obtain ⟨c, spot, rest⟩ := x
  obtain ⟨hclient, hrest, htoCome, hcounts⟩ := h
  obtain rfl : rest = attempts.drop c.waits.connects := hrest
  have hlater : (attempts.drop c.waits.connects).flatMap Attempt.texts <:+
      attempts.flatMap Attempt.texts := (List.suffix_append ..).trans htoCome
  have hfew := hclient.few c.waits.sleeps (Nat.le_refl _)
  rw [step_never]
  -- wherever the client stands, the counts of dials, sleeps and failures fit the attempts made
  cases spot with
  | connecting attempt =>
    obtain ⟨hgaveUp, hconnects, hattempt, hfailures⟩ := hcounts
    cases attempt with
    | refused =>
      have hnext : c.failures + 1 = failuresAfter attempts c.waits.connects := by
        rw [hconnects, failuresAfter_of_refused hattempt.symm, ← hfailures]
      exact paced_retry hclient hgaveUp hconnects hnext (hfailures ▸ hfew) hlater
    | connected link =>
      -- a connection sets the count of failures back
      have hnext : failuresAfter attempts c.waits.connects = 1 :=
        hconnects ▸ failuresAfter_of_connected hattempt.symm
      exact ⟨hclient.congr rfl, rfl, htoCome, hgaveUp, hconnects, rfl, hnext⟩
  | sending link =>
    simp only [Course.resume]
    split
    · rename_i haccepts
      have htexts : (⟨c, .sending link, attempts.drop c.waits.connects⟩ : Course).toCome =
          link.incoming ++ (attempts.drop c.waits.connects).flatMap Attempt.texts := by
        simp [toCome, Spot.texts, Link.texts, haccepts]
      exact paced_listen hclient hcounts (htexts ▸ htoCome)
    · exact paced_hangUp hclient hcounts hlater
  | receiving text later =>
    simp only [Course.resume]
    cases htake : c.take text with
    | ok d =>
      obtain ⟨store, registered, reports, rfl⟩ := Client.take_eq htake
      have hnext : later ++ (attempts.drop c.waits.connects).flatMap Attempt.texts <:+
          attempts.flatMap Attempt.texts := (List.suffix_cons text _).trans htoCome
      exact paced_listen (c := { c with store, registered, reports }) (hclient.congr rfl) hcounts hnext
    | error fault =>
      have harrives : text ∈ attempts.flatMap Attempt.texts :=
        htoCome.subset (by simp [toCome, Spot.texts])
      exact ⟨hclient.congr rfl, rfl, hlater, hcounts.1, hcounts.2.1, text, harrives,
        Client.ofText_of_take_error htake⟩
  | losing => exact paced_hangUp (c := c.setIncoming []) (hclient.congr rfl) hcounts hlater
  | sleeping =>
    obtain ⟨hgaveUp, hconnects, hfailures⟩ := hcounts
    exact paced_tryNext hclient hgaveUp hconnects hfailures hlater
  | ended fault => exact ⟨hclient, rfl, htoCome, hcounts⟩

/-- A new client has kept the pace wherever its run has got to. -/
theorem paced_of_reaches {platform deviceId : String} {store : Store}
    (hc : c = .new platform deviceId maxAttempts cap store) (hmax : 1 ≤ maxAttempts) {x : Course}
    (h : Reaches never (tryNext c attempts) x) : x.Paced attempts maxAttempts cap := by
  subst hc
  refine h.induction ?_ fun _ hpaced => hpaced.step
  have hfew : ∀ n ≤ 0, (failuresAfter attempts n : Int) < maxAttempts := by
    intro n hn
    obtain rfl := Nat.le_zero.mp hn
    exact hmax
  exact paced_tryNext (c := .new platform deviceId maxAttempts cap store)
    ⟨rfl, rfl, rfl, rfl, hfew⟩ rfl rfl rfl (List.suffix_refl _)

variable {fault : Option Client.Fault} {rest : List Attempt}

/-- A run that has ended has ended with what was due after its attempts. -/
theorem Paced.ended (h : (⟨c, .ended fault, rest⟩ : Course).Paced attempts maxAttempts cap) :
    EndsAfter attempts maxAttempts cap c.waits.connects c.gaveUp fault := by
  obtain ⟨hclient, -, -, hcounts⟩ := h
  have hmax : c.maxAttempts = maxAttempts := hclient.maxAttempts_eq
  have hcap : c.maxDelay = cap := hclient.maxDelay_eq
  refine ⟨?_, ?_, ?_⟩
  · rintro rfl
    obtain ⟨hgaveUp, -, hfailures, hlast⟩ := hcounts
    exact ⟨hgaveUp, (congrArg Nat.cast hfailures.symm).trans (hlast.trans hmax)⟩
  · rintro large rfl
    obtain ⟨hgaveUp, -, hfailures, hbelow, hpause⟩ := hcounts
    exact ⟨hgaveUp, hmax ▸ hfailures ▸ hbelow, hcap ▸ hpause⟩
  · rintro digits rfl
    obtain ⟨hgaveUp, -, htext⟩ := hcounts
    exact ⟨hgaveUp, htext⟩

/-- A client does not break off if the cap is in range, or is a double and the client bears few failures,
and if every text can be read or passed over. -/
theorem Paced.eq_none (h : (⟨c, .ended fault, rest⟩ : Course).Paced attempts maxAttempts cap)
    (hcap : cap.InRange ∨ (∃ x, cap = .float x) ∧ maxAttempts ≤ Binary64.pow2 511)
    (hlegible : Legible attempts) : fault = none := by
  rcases hfault : fault with _ | digits | large
  · rfl
  · obtain ⟨-, text, harrives, hdigits⟩ := h.ended.no_reading digits hfault
    exact absurd hdigits (hlegible.ofText_ne harrives digits)
  · obtain ⟨-, hbelow, hpause⟩ := h.ended.no_wait large hfault
    have hwait : (pauseAfter attempts cap c.waits.connects).isSome = true := by
      rcases hcap with hrange | ⟨⟨x, rfl⟩, hsmall⟩
      · exact Number.isSome_least_of_inRange (Int.natCast_nonneg _) hrange
      · exact Number.isSome_least_float (Binary64.mul_self_le_largest (by omega)) x
    rw [hpause] at hwait
    cases hwait

end Pace

end Course

/-- A client that nobody stops makes some number of attempts.  It sleeps after every one but the last, for
the square of the failures in a row or for the cap if that is smaller; until then the failures in a row
were fewer than the number at which it gives up.  After the last attempt they have come to that number,
and then it gives up.  It breaks off without giving up only where the smaller of the two is no double, or
where a text arrives that can neither be read nor passed over; the former happens to no cap in range, and
to no double if the client gives up at 2 ^ 511 failures or before.  Between two connections it sleeps fewer
times than the number of failures at which it gives up.  When it sleeps, and at the end, it is not
registered and holds no link. -/
theorem client_sleeps_or_gives_up {platform deviceId : String} {maxAttempts : Int} {cap : Number}
    {store : Store} {c : Client} (hc : c = .new platform deviceId maxAttempts cap store)
    (hmax : 1 ≤ maxAttempts) (attempts : List Attempt) :
    let last := (c.run Client.never attempts).1
    let fault := (c.run Client.never attempts).2.2
    (∃ n, last.waits.connects = n + 1 ∧
      (c.run Client.never attempts).2.1 = attempts.drop (n + 1) ∧
      last.delays.map some = (List.range' 1 n).map (pauseAfter attempts cap) ∧
      (∀ k ≤ n, (failuresAfter attempts k : Int) < maxAttempts) ∧
      (∀ first count, first + count ≤ n →
        (∀ i, first < i → i < first + count → attemptAt attempts i = .refused) →
        (count : Int) < maxAttempts) ∧
      EndsAfter attempts maxAttempts cap (n + 1) last.gaveUp fault) ∧
    (cap.InRange ∨ (∃ x, cap = .float x) ∧ maxAttempts ≤ Binary64.pow2 511 → Legible attempts →
      fault = none) ∧
    last.registered = false ∧ last.link = none ∧
    ∀ i, (c.course Client.never attempts i).spot = .sleeping →
      let d := (c.course Client.never attempts i).client
      d.registered = false ∧ d.link = none ∧ d.gaveUp = false ∧
        d.failures = failuresAfter attempts d.waits.connects ∧ d.failures < maxAttempts ∧
        d.delays.map some = (List.range' 1 d.waits.connects).map (pauseAfter attempts cap) := by
  intro last fault
  have hapart : c.Apart := hc ▸ ⟨rfl, rfl⟩
  have hend : Course.Reaches Client.never (.tryNext c attempts) _ := Course.reaches_run c attempts
  have hpaced := Course.paced_of_reaches hc hmax hend
  have hconnects : last.waits.connects = last.waits.sleeps + 1 := hpaced.counts.connects_of_end
  refine ⟨⟨last.waits.sleeps, hconnects, hconnects ▸ hpaced.rest, hpaced.client.delays,
      hpaced.client.few, ?_, ?_⟩,
    ?_, (hend.loose hapart rfl).registered, (hend.loose hapart rfl).link, ?_⟩
  · intro first count hle hrefused
    have hcount := le_failuresAfter hrefused
    have hbelow := hpaced.client.few (first + count) hle
    omega
  · exact hconnects ▸ hpaced.ended
  · intro hcap hlegible
    exact hpaced.eq_none hcap hlegible
  · intro i hsleeping d
    have hreach := c.reaches_course Client.never attempts i
    obtain ⟨hslept, -, -, hat⟩ := Course.paced_of_reaches hc hmax hreach
    rw [hsleeping] at hat
    obtain ⟨hgaveUp, hequal, hfailures⟩ := hat
    -- a client that sleeps has let go of its connection
    have hasleep := hreach.loose hapart (by rw [hsleeping]; rfl)
    have hbelow : (d.failures : Int) < maxAttempts := hfailures ▸ hslept.few _ (Nat.le_refl _)
    exact ⟨hasleep.registered, hasleep.link, hgaveUp, hequal ▸ hfailures, hbelow, hequal ▸ hslept.delays⟩

/-- A client that bears two failures in a row and not a third has one, loses a connection, and has two
more: it sleeps three times, and gives up with an attempt left over. -/
theorem gives_up_after_a_lost_connection :
    let attempts : List Attempt :=
      [.refused, .connected ⟨true, ["[]"], [], false⟩, .refused, .refused, .refused]
    let cap : Number := .float (.ofInt 3)
    let c := Client.new "ios" "phone-1" 3 cap (.empty false)
    (1 : Int) ≤ 3 ∧
      (c.run Client.never attempts).1.delays = [.ofInt 1, .ofInt 1, .ofInt 3] ∧
      (c.run Client.never attempts).1.gaveUp = true ∧
      (c.run Client.never attempts).2.1 = [.refused] := by
  intro attempts cap c
  have hmax : (1 : Int) ≤ 3 := by decide
  obtain ⟨⟨n, hconnects, hrest, hdelays, -, -, hends⟩, -⟩ :=
    client_sleeps_or_gives_up (c := c) rfl hmax attempts
  have hthree : (c.run Client.never attempts).1.waits.connects = 4 ∧
      (c.run Client.never attempts).2.2 = none := by decide +kernel
  have hn : n + 1 = 4 := hconnects.symm.trans hthree.1
  obtain rfl : n = 3 := Nat.succ.inj hn
  have hpauses : (List.range' 1 3).map (pauseAfter attempts cap) =
      [.ofInt 1, .ofInt 1, .ofInt 3].map some := by decide +kernel
  exact ⟨hmax, (List.map_inj_right fun _ _ => Option.some.inj).mp (hdelays.trans hpauses),
    (hends.gives_up hthree.2).1, hrest⟩

end UiSurface
