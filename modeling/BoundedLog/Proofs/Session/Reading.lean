import BoundedLog.Proofs.Lines
import BoundedLog.Session.Stream

/-!
# Reading from a stream without failures, writing to a willing outlet

If no failure is among the arrivals, it does not matter in which chunks the bytes arrive, nor when
the server is told to stop: a reading takes the first line of all the bytes that arrive, or all of
them if there is no line, and leaves the rest.

An outlet that accepts bytes at every attempt and passes them on accepts whatever is written.
-/

namespace BoundedLog

namespace Arrival

/-- The bytes that arrive, one after the other. -/
def delivered : List Arrival → Bytes
  | [] => []
  | .bytes chunk :: rest => chunk ++ delivered rest
  | _ :: rest => delivered rest

/-- The transport does not fail. -/
def Faultless (arrivals : List Arrival) : Prop := ∀ cause, .failure cause ∉ arrivals

variable {arrivals rest : List Arrival}

theorem unread_eq_length_delivered (arrivals : List Arrival) :
  unread arrivals = (delivered arrivals).length
  := by
  induction arrivals with
  | nil => rfl
  | cons arrival rest ih =>
    cases arrival with
    | bytes chunk => rw [unread, delivered, List.length_append, ih]
    | failure cause => exact ih
    | stop => exact ih

/-- Every line that arrives takes a byte. -/
theorem length_lines_le_unread (arrivals : List Arrival) :
  (delivered arrivals).lines.length ≤ unread arrivals
  := by
  rw [unread_eq_length_delivered]
  apply Bytes.length_lines_le

theorem Faultless.tail {arrival : Arrival} (h : Faultless (arrival :: rest)) :
  Faultless rest
  := fun cause hmem => h cause (List.mem_cons_of_mem _ hmem)

theorem Faultless.cons_bytes (h : Faultless rest) (chunk : Bytes) :
  Faultless (.bytes chunk :: rest)
  := by
  intro cause hmem
  rcases List.mem_cons.mp hmem with heq | hrest
  · cases heq
  · apply h cause hrest

/-- If no newline arrives, everything is read. -/
theorem readLineFrom_of_cutLine?_eq_none (h : Faultless arrivals)
    (hcut : (delivered arrivals).cutLine? = none) (line : Bytes) (stopped : Bool) :
  ∃ stopped', readLineFrom line stopped arrivals = ⟨.ok (line ++ delivered arrivals), stopped', []⟩
  := by
  induction arrivals generalizing line stopped with
  | nil =>
    use stopped
    rw [readLineFrom, delivered, List.append_nil]
  | cons arrival rest ih =>
    cases arrival with
    | bytes chunk =>
      have hcut' := hcut
      rw [delivered, Bytes.cutLine?_eq_none_iff, List.mem_append, not_or] at hcut'
      have hchunk := Bytes.cutLine?_eq_none_iff.mpr hcut'.1
      obtain ⟨stopped', hread⟩ :=
        ih h.tail (Bytes.cutLine?_eq_none_iff.mpr hcut'.2) (line ++ chunk) stopped
      use stopped'
      rw [readLineFrom, hchunk]
      simp only
      rw [hread, delivered, List.append_assoc]
    | failure cause => exact absurd List.mem_cons_self (h cause)
    | stop => apply ih h.tail hcut line true

/-- If a newline arrives, the bytes up to it are read. -/
theorem readLineFrom_of_cutLine?_eq_some (h : Faultless arrivals) {front behind : Bytes}
    (hcut : (delivered arrivals).cutLine? = some (front, behind)) (line : Bytes) (stopped : Bool) :
  ∃ stopped' left,
    readLineFrom line stopped arrivals = ⟨.ok (line ++ front), stopped', left⟩
      ∧ delivered left = behind ∧ Faultless left
  := by
  induction arrivals generalizing line stopped front with
  | nil => cases hcut
  | cons arrival rest ih =>
    cases arrival with
    | bytes chunk =>
      rw [delivered] at hcut
      rw [readLineFrom]
      cases hchunk : chunk.cutLine? with
      | some cut =>
        obtain ⟨chunkFront, others⟩ := cut
        rw [Bytes.cutLine?_append_of_some hchunk, Option.some.injEq, Prod.mk.injEq] at hcut
        obtain ⟨rfl, rfl⟩ := hcut
        exact ⟨stopped, .bytes others :: rest, rfl, rfl, h.tail.cons_bytes others⟩
      | none =>
        rw [Bytes.cutLine?_append_of_none hchunk, Option.map_eq_some_iff] at hcut
        obtain ⟨⟨restFront, behind'⟩, hrest, heq⟩ := hcut
        rw [Prod.mk.injEq] at heq
        obtain ⟨rfl, rfl⟩ := heq
        obtain ⟨stopped', left, hread, hleft⟩ := ih h.tail hrest (line ++ chunk) stopped
        use stopped', left
        rw [List.append_assoc] at hread
        exact ⟨hread, hleft⟩
    | failure cause => exact absurd List.mem_cons_self (h cause)
    | stop => apply ih h.tail hcut line true

end Arrival

/-- Whether the transport accepts something, or is to be asked again. -/
def WriteAnswer.isWilling : WriteAnswer → Bool
  | accept limit => limit != 0
  | refuse cause => cause.kind = .interrupted

namespace Outlet

/-- Every attempt to write is accepted, at least in part, or made again, and what was accepted is
passed on. -/
structure Willing (o : Outlet) : Prop where
  answers : ∀ answer ∈ o.answers, answer.isWilling = true
  flushFailures : ∀ failure ∈ o.flushFailures, failure = none

/-- An outlet about which nothing else is said is willing. -/
theorem willing_default :
  Willing {}
  := ⟨List.forall_mem_nil _, List.forall_mem_nil _⟩

/-- No attempt adds to the answers. -/
theorem left_push_suffix (answers : List WriteAnswer) (remaining : Nat) :
  (push answers remaining).left <:+ answers
  := by
  fun_induction push answers remaining with
  | case1 answers => apply List.suffix_refl
  | case2 remaining => apply List.suffix_refl
  | case3 answers remaining => apply List.suffix_cons
  | case4 limit answers remaining hne taken more ih => apply ih.trans (List.suffix_cons _ _)
  | case5 cause answers remaining hne hinterrupted ih => apply ih.trans (List.suffix_cons _ _)
  | case6 cause answers remaining => apply List.suffix_cons

/-- The transport says that all is well only if it has accepted everything. -/
theorem count_push_of_ok {answers : List WriteAnswer} {remaining : Nat}
    (h : (push answers remaining).outcome = .ok ()) :
  (push answers remaining).count = remaining
  := by
  fun_induction push answers remaining with
  | case1 answers => rfl
  | case2 remaining => rfl
  | case3 answers remaining => cases h
  | case4 limit answers remaining hne taken more ih =>
    have htaken : taken ≤ remaining := Nat.min_le_right _ _
    have hmore : more.count = remaining - taken := ih h
    show taken + more.count = remaining
    omega
  | case5 cause answers remaining hne hinterrupted ih => apply ih h
  | case6 cause answers remaining => cases h

theorem outcome_push_of_willing {answers : List WriteAnswer}
    (h : ∀ answer ∈ answers, answer.isWilling = true) (remaining : Nat) :
  (push answers remaining).outcome = .ok ()
  := by
  fun_induction push answers remaining with
  | case1 answers => rfl
  | case2 remaining => rfl
  | case3 answers remaining => cases h _ List.mem_cons_self
  | case4 limit answers remaining hne taken more ih =>
    apply ih fun answer hmem => h answer (List.mem_cons_of_mem _ hmem)
  | case5 cause answers remaining hne hinterrupted ih =>
    apply ih fun answer hmem => h answer (List.mem_cons_of_mem _ hmem)
  | case6 cause answers remaining hne hfinal =>
    exact absurd (of_decide_eq_true (h _ List.mem_cons_self)) hfinal

/-- A flush changes nothing but the number of flushes and what is ahead of them. -/
theorem flush_snd (o : Outlet) :
  o.flush.2 = { o with flushFailures := o.flushFailures.tail, flushes := o.flushes + 1 }
  := by
  rw [flush]
  split
  · rfl
  · rfl

/-- The outlet behind bytes that were written and passed on. -/
def behind (o : Outlet) (bytes : Bytes) : Outlet := (o.write bytes).2.flush.2

namespace Willing

variable {o : Outlet}

theorem write (h : o.Willing) (bytes : Bytes) :
  (o.write bytes).1 = .ok ()
  := outcome_push_of_willing h.answers bytes.length

theorem flush (h : o.Willing) :
  o.flush.1 = .ok ()
  := by
  rw [Outlet.flush]
  split
  · next cause rest hfailures =>
    cases h.flushFailures (some cause) (hfailures ▸ List.mem_cons_self)
  · rfl

theorem write_snd (h : o.Willing) (bytes : Bytes) :
  (o.write bytes).2.Willing
  where
  answers answer hmem := h.answers answer ((left_push_suffix o.answers bytes.length).subset hmem)
  flushFailures := h.flushFailures

/-- A willing outlet stays so. -/
theorem behind (h : o.Willing) (bytes : Bytes) :
  (o.behind bytes).Willing
  := by
  rw [Outlet.behind, flush_snd]
  constructor
  · apply (h.write_snd bytes).answers
  · intro failure hmem
    apply h.flushFailures failure (List.mem_of_mem_tail hmem)

theorem accepted_behind (h : o.Willing) (bytes : Bytes) :
  (o.behind bytes).accepted = o.accepted ++ bytes
  := by
  rw [Outlet.behind, flush_snd]
  show o.accepted ++ bytes.take (push o.answers bytes.length).count = _
  rw [count_push_of_ok (outcome_push_of_willing h.answers bytes.length), List.take_length]

end Willing

end Outlet

end BoundedLog
