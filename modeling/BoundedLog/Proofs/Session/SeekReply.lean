import BoundedLog.Proofs.Session.Conversation
import BoundedLog.Proofs.Window.Address

/-!
# The reply behind a seek and a record

A place is found before the record of the client is appended, and the reply begins at that place
afterwards. As long as nothing leaves the log in between, the reply begins with the byte that was
asked for. If the record evicts the oldest one, the reply begins as many bytes behind that byte as
the evicted record has, and it may begin inside the record of the client or behind it.
-/

namespace BoundedLog.Session

variable {log : SharedLog} {arrivals : List Arrival} {outlet : Outlet}

/-! ### Bytes behind a place -/

/-- Bytes are lost by dropping some. -/
theorem drop_eq_self_iff {bytes : Bytes} (h : bytes ≠ []) (n : Nat) :
  bytes.drop n = bytes ↔ n = 0
  := by
  constructor
  · intro hdrop
    have hlength := congrArg List.length hdrop
    have hpos := List.length_pos_iff.mpr h
    rw [List.length_drop] at hlength
    omega
  · rintro rfl
    rfl

/-- A line at the end of the content is at the end of what is from a place on if the place is not
inside the line or behind it. -/
theorem suffix_drop_iff {line : Bytes} (hline : line ≠ []) (front : Bytes) (place : Nat) :
  line <:+ (front ++ line).drop place ↔ place ≤ front.length
  := by
  have hpos := List.length_pos_iff.mpr hline
  constructor
  · intro h
    have hlength := h.length_le
    rw [List.length_drop, List.length_append] at hlength
    omega
  · intro h
    rw [List.drop_append_of_le_length h]
    apply List.suffix_append

/-! ### The reply -/

/-- A client that asks for places of the log and then appends a record gets what follows the last
place in the content behind the record. -/
theorem run_of_resolved (hlog : log.window.Reachable)
    (hfaultless : Arrival.Faultless arrivals) (hwilling : outlet.Willing)
    {asks more : List Bytes} {last line : Bytes} {index offset place : Nat}
    (hlines : (Arrival.delivered arrivals).lines = asks ++ last :: line :: more)
    (hasks : ∀ ask ∈ asks, Dialogue.Resolved log ask)
    (hlast : Request.ofLine last = .ok (.seek index offset))
    (hplace : log.seek index offset = .ok place)
    (hline : ¬ Request.seekWord <+: line) (stopped : Bool) (d : Disk) :
  let result := (run ⟨{ arrivals, outlet }, log, stopped⟩).run d
  ∃ staying, log.window.toList = log.window.leaving ++ staying
    ∧ result.1.1 = .ok ⟨asks.length + 1, 1, ((staying ++ [line]).flatten.drop place).length⟩
    ∧ result.1.2.log.window.toList = staying ++ [line]
    ∧ result.1.2.session.outlet.accepted
      = outlet.accepted ++ (staying ++ [line]).flatten.drop place
  := by
  intro result
  obtain ⟨places, hlength, hdialogue⟩ := Dialogue.ofLines_of_resolved hasks hlast hplace hline false
    more (Arrival.delivered arrivals).unterminated
  rw [← hlines] at hdialogue
  replace hdialogue : Dialogue.ofBytes log (Arrival.delivered arrivals) = _ := hdialogue
  obtain ⟨hresult, -, houtlet, hafter, -⟩ := run_of_answered hfaultless hwilling stopped d
    (congrArg Dialogue.outcome hdialogue)
  obtain ⟨staying, hheld, -, hholds⟩ := hlog.holds.exists_staying line
  have hcontent : (log.committing (some line)).window.content = (staying ++ [line]).flatten :=
    hholds.content_eq
  simp only [hdialogue, hcontent, List.getLast?_concat, Option.getD_some, List.length_append,
    List.length_singleton, hlength] at hresult houtlet
  use staying, hheld, hresult
  constructor
  · rw [hafter]
    apply hholds.toList_eq
  · apply (congrArg Outlet.accepted houtlet).trans (hwilling.accepted_behind _)

/-- The reply to a client that asks for places of the log and then appends a record: if the record
that the last place is in stays, the reply is what is in the log from that place on, but without as
many bytes at the front as have left the log. So it is what was asked for exactly if no byte has
left. It ends with the record of the client exactly if the place and the number of bytes that have
left together do not exceed the number of bytes that the log held. -/
theorem run_reply_from_place (hlog : log.window.Reachable)
    (hfaultless : Arrival.Faultless arrivals) (hwilling : outlet.Willing)
    {asks more : List Bytes} {last line : Bytes} {index offset place : Nat}
    (hlines : (Arrival.delivered arrivals).lines = asks ++ last :: line :: more)
    (hasks : ∀ ask ∈ asks, Dialogue.Resolved log ask)
    (hlast : Request.ofLine last = .ok (.seek index offset))
    (hplace : log.seek index offset = .ok place)
    (hline : ¬ Request.seekWord <+: line) (stopped : Bool) (d : Disk) :
  let held := log.window.toList
  let gone := log.window.leaving.length
  let lost := log.window.leaving.flatten.length
  let after := held.drop gone ++ [line]
  let reply := after.flatten.drop place
  let promised := (after.drop (index - gone)).flatten.drop offset
  let result := (run ⟨{ arrivals, outlet }, log, stopped⟩).run d
  result.1.1 = .ok ⟨asks.length + 1, 1, reply.length⟩
    ∧ result.1.2.log.window.toList = after
    ∧ result.1.2.session.outlet.accepted = outlet.accepted ++ reply
    ∧ (gone ≤ index → after[index - gone]? = held[index]?
      ∧ reply = promised.drop lost ∧ (reply = promised ↔ lost = 0))
    ∧ (line <:+ reply ↔ place + lost ≤ held.flatten.length)
  := by
  obtain ⟨staying, hheld, hresult, hlist, haccepted⟩ := run_of_resolved hlog hfaultless hwilling
    hlines hasks hlast hplace hline stopped d
  obtain ⟨record, hrecord, hoffset, rfl⟩ := hlog.holds.position_eq_ok_iff.mp hplace
  rw [hheld] at hrecord hresult haccepted ⊢
  intro held gone lost after reply promised result
  have hafter : after = staying ++ [line] := congrArg (· ++ [line]) List.drop_left
  have hnil : line ≠ [] := by
    apply Bytes.ne_nil_of_mem_lines
    rw [hlines]
    simp
  have hindex : index < held.length := (List.getElem?_eq_some_iff.mp hrecord).1
  and_intros
  · rw [hresult, ← hafter]
  · rw [hafter]
    exact hlist
  · rw [haccepted, ← hafter]
  · intro hgone
    have hsame : after[index - gone]? = held[index]? := by
      rw [hafter]
      apply Window.getElem?_of_leaving hgone hindex [line]
    have hmoved : reply = promised.drop lost := by
      show after.flatten.drop _ = ((after.drop _).flatten.drop _).drop _
      rw [hafter]
      apply Window.drop_place_of_leaving hgone hindex.le [line] offset
    have hpromised : promised ≠ [] :=
      Window.drop_flatten_ne_nil (hsame.trans hrecord) hoffset
    rw [hmoved]
    exact ⟨hsame, rfl, drop_eq_self_iff hpromised lost⟩
  · show line <:+ after.flatten.drop _ ↔ _ + _ ≤ held.flatten.length
    rw [hafter, List.flatten_append, List.flatten_singleton, suffix_drop_iff hnil,
      List.flatten_append, List.length_append, Nat.add_comm _ lost, Nat.add_le_add_iff_left]

/-- The record evicts two bytes, and so the reply begins two bytes behind the second byte of record
1, the last place of two that were asked for. -/
theorem run_reply_two_bytes_late :
  let log : SharedLog :=
    { window := (((Window.ofCapacity 2).append [97, newline]).1.append [98, 98, newline]).1 }
  let arrivals : List Arrival :=
    [.bytes (Request.seekWord ++ [48, 44, 49, newline]),
      .bytes (Request.seekWord ++ [49, 44, 49, newline, 99, newline])]
  let result := (run ⟨{ arrivals }, log, false⟩).run ⟨⟨[]⟩, [], []⟩
  result.1.1 = .ok ⟨2, 1, 2⟩
    ∧ result.1.2.log.window.toList = [[98, 98, newline], [99, newline]]
    ∧ result.1.2.session.outlet.accepted = [98, newline, 99, newline].drop 2
  := by
  intro log arrivals
  have hlog : log.window.Reachable := .append (.append (.ofCapacity 2) _) _
  have hfaultless : Arrival.Faultless arrivals := by simp [arrivals, Arrival.Faultless]
  have hlines : (Arrival.delivered arrivals).lines
      = [Request.seekWord ++ [48, 44, 49, newline]]
        ++ (Request.seekWord ++ [49, 44, 49, newline]) :: [99, newline] :: [] := by
    simp only [arrivals]
    rfl
  have hfirst : log.seek 0 1 = .ok 1 := by
    simp only [log]
    rfl
  have hasks : ∀ ask ∈ [Request.seekWord ++ [48, 44, 49, newline]],
      Dialogue.Resolved log ask := by
    intro ask hmem
    rw [List.mem_singleton.mp hmem]
    exact ⟨0, 1, 1, rfl, hfirst⟩
  have hlast : Request.ofLine (Request.seekWord ++ [49, 44, 49, newline]) = .ok (.seek 1 1) := by
    rfl
  have hplace : log.seek 1 1 = .ok 3 := by
    simp only [log]
    rfl
  have hline : ¬ Request.seekWord <+: [99, newline] := by decide
  have hafter : log.window.toList.drop log.window.leaving.length ++ [[99, newline]]
      = [[98, 98, newline], [99, newline]] := by
    simp only [log]
    rfl
  obtain ⟨hresult, hlist, haccepted, -, -⟩ := run_reply_from_place hlog hfaultless
    Outlet.willing_default hlines hasks hlast hplace hline false ⟨⟨[]⟩, [], []⟩
  simp only [hafter] at hresult hlist haccepted
  exact ⟨hresult, hlist, haccepted⟩

/-- A client asks for the first byte of record 1, and its own record evicts a longer record 0. The
record asked for is still there, but the reply is empty: it has neither that record nor the
client's own. -/
theorem run_reply_lost :
  let log : SharedLog :=
    { window :=
        (((Window.ofCapacity 2).append [97, 97, 97, 97, newline]).1.append [98, newline]).1 }
  let arrivals : List Arrival :=
    [.bytes (Request.seekWord ++ [49, 44, 48, newline, 99, newline])]
  let result := (run ⟨{ arrivals }, log, false⟩).run ⟨⟨[]⟩, [], []⟩
  log.window.get? 1 = some [98, newline]
    ∧ result.1.1 = .ok ⟨1, 1, 0⟩
    ∧ result.1.2.log.window.toList = [[98, newline], [99, newline]]
    ∧ result.1.2.session.outlet.accepted ≠ [98, newline, 99, newline]
    ∧ ¬ [99, newline] <:+ result.1.2.session.outlet.accepted
  := by
  intro log arrivals
  have hfaultless : Arrival.Faultless arrivals := by simp [arrivals, Arrival.Faultless]
  have hdialogue : Dialogue.ofBytes log (Arrival.delivered arrivals)
      = ⟨[5], .ok (some [99, newline]), []⟩ := by
    simp only [log, arrivals]
    rfl
  have hlist : (log.committing (some [99, newline])).window.toList
      = [[98, newline], [99, newline]] := by
    simp only [log]
    rfl
  have hcontent : (log.committing (some [99, newline])).window.content.drop 5 = [] := by
    simp only [log]
    rfl
  have hasked : log.window.get? 1 = some [98, newline] := by
    simp only [log]
    rfl
  obtain ⟨hresult, -, houtlet, hafter, -⟩ :=
    run_of_answered hfaultless Outlet.willing_default false ⟨⟨[]⟩, [], []⟩
      (congrArg Dialogue.outcome hdialogue)
  simp only [hdialogue, List.getLast?_singleton, Option.getD_some, hcontent] at hresult houtlet
  dsimp only
  rw [hafter, houtlet]
  exact ⟨hasked, hresult, hlist, by decide, by decide⟩

end BoundedLog.Session
