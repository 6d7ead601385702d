import GetOffline.PlaybackNumbers
import Mathlib.Data.List.Permutation

set_option autoImplicit true

namespace GetOffline
open Python Execution

-- api/services/dashboard_actions.py, api/playback/service.py

/-- The requests that write the playback of an item, with the times that they take. -/
inductive PlaybackRequest
  | save (request : ProgressRequest) (now : Instant)
  | markPlayed (playedAt now : Instant)
  | markUnplayed (now : Instant)

/-- `item.save(update_fields=update_fields)`: the item was read before, and its other columns stay as they
are by now. -/
def PlaybackUpdate.save (now : Instant) (update : PlaybackUpdate) (item row : DownloadRow) :
    DownloadRow :=
  { row with
    lastPositionSeconds := if update.completed then .zero else update.position
    totalListenedSeconds := item.totalListenedSeconds.orZero.add update.listenedDelta
    lastPositionUpdatedAt := some now
    lastSeenAt := now
    played := row.played || update.completed
    playedAt := if update.completed then some now else row.playedAt }

namespace PlaybackRequest

/-- What the request leaves of the row, having read the item. -/
def write (render : Json → String) (item : DownloadRow) (request : PlaybackRequest)
    (row : DownloadRow) : DownloadRow :=
  match request with
  | .save request now => (request.update render item).elim row fun update => update.save now item row
  | .markPlayed playedAt now =>
    { row with played := true, playedAt := some playedAt, lastSeenAt := now }
  | .markUnplayed now => { row with played := false, playedAt := none, lastSeenAt := now }

/-- The request alone. -/
def serve (render : Json → String) (row : DownloadRow) (request : PlaybackRequest) : DownloadRow :=
  request.write render row row

end PlaybackRequest

/-- The row, what each request has read of it, and the requests that have written it. -/
structure PlaybackRace where
  row : DownloadRow
  items : Nat → Option DownloadRow
  written : List Nat

inductive RowAccess
  | read (i : Nat)
  | write (i : Nat)

namespace PlaybackRace

def start (row : DownloadRow) : PlaybackRace where
  row := row
  items := fun _ => none
  written := []

/-- A request reads the row once, and later writes it once. -/
def step (render : Json → String) (requests : List PlaybackRequest) (w : PlaybackRace) :
    RowAccess → Option PlaybackRace
  | .read i =>
    if i < requests.length ∧ w.items i = none then
      some { w with items := Function.update w.items i (some w.row) }
    else none
  | .write i =>
    if i ∈ w.written then none
    else (requests[i]?).bind fun request => (w.items i).map fun item =>
      { w with row := request.write render item w.row, written := w.written ++ [i] }

/-- The requests one after another. -/
def serveAll (render : Json → String) (requests : List PlaybackRequest) (row : DownloadRow)
    (order : List Nat) : DownloadRow :=
  order.foldl (fun row i => (requests[i]?).elim row (PlaybackRequest.serve render row)) row

/-- The row is as if the requests that have written it had come one after another in some order. -/
def Serializable (render : Json → String) (requests : List PlaybackRequest) (row : DownloadRow)
    (w : PlaybackRace) : Prop :=
  ∃ order, order.Perm w.written ∧ w.row = serveAll render requests row order

/-- All requests are through. -/
def Complete (requests : List PlaybackRequest) (w : PlaybackRace) : Prop :=
  ∀ i < requests.length, i ∈ w.written

end PlaybackRace

/-- The listened time that a request adds up from the item it has read is that of the row. -/
def PlaybackRequest.Current (item : DownloadRow) (request : PlaybackRequest) (row : DownloadRow) : Prop :=
  match request with
  | .save request _ => ∀ x, request.position = .ok x →
      item.totalListenedSeconds.orZero.add (item.advance x) =
        row.totalListenedSeconds.orZero.add (row.advance x)
  | .markPlayed _ _ | .markUnplayed _ => True

/-- No request writes a listened time that a write since its read has made wrong. -/
def PlaybackRace.WritesCurrent (requests : List PlaybackRequest) (w : PlaybackRace) : RowAccess → Prop
  | .read _ => True
  | .write i => i ∉ w.written → ∀ request item, requests[i]? = some request → w.items i = some item →
      request.Current item w.row

section
variable {render : Json → String} {requests : List PlaybackRequest} {row item : DownloadRow}
  {w w' : PlaybackRace}

theorem PlaybackUpdate.save_self (now : Instant) (update : PlaybackUpdate) (row : DownloadRow) :
    update.save now row row = update.apply now row := rfl

/-- A request does to the row what it does alone exactly if its listened time is current. -/
theorem PlaybackRequest.write_eq_serve_iff (render : Json → String) (item : DownloadRow)
    (request : PlaybackRequest) (row : DownloadRow) :
    request.write render item row = request.serve render row ↔ request.Current item row := by
  cases request with
  | markPlayed | markUnplayed => exact iff_of_true rfl trivial
  | save request now =>
    rcases request.update_spec render with ⟨e, hposition, hupdate⟩ |
      ⟨x, reason, completed, hposition, hupdate⟩
    · rw [serve, write, write, hupdate, hupdate]
      refine iff_of_true rfl ?_
      intro x hx
      rw [hposition] at hx
      cases hx
    · rw [serve, write, write, hupdate, hupdate]
      constructor
      · intro h y hy
        obtain rfl := Except.ok.inj (hposition.symm.trans hy)
        exact congrArg DownloadRow.totalListenedSeconds h
      · intro h
        have htotal := h x hposition
        simp only [Option.elim_some, PlaybackUpdate.save, htotal]

namespace PlaybackRace

theorem serveAll_append (i : Nat) (order : List Nat) (hi : requests[i]? = some request) :
    serveAll render requests row (order ++ [i]) =
      request.serve render (serveAll render requests row order) := by
  rw [serveAll, List.foldl_append, List.foldl_cons, List.foldl_nil, hi]
  rfl

/-- What a step can do. -/
theorem step_cases (h : w.step render requests access = some w') :
    (∃ i, access = .read i ∧ w'.row = w.row ∧ w'.written = w.written) ∨
    ∃ i request item, access = .write i ∧ i ∉ w.written ∧ requests[i]? = some request ∧
      w.items i = some item ∧ w'.row = request.write render item w.row ∧
      w'.written = w.written ++ [i] := by
  cases access with
  | read i =>
    rw [step] at h
    split at h
    · obtain rfl := Option.some.inj h
      exact .inl ⟨i, rfl, rfl, rfl⟩
    · cases h
  | write i =>
    rw [step] at h
    split at h
    · cases h
    · next hi =>
      obtain ⟨request, hrequest, h⟩ := Option.bind_eq_some_iff.1 h
      obtain ⟨item, hitem, rfl⟩ := Option.map_eq_some_iff.1 h
      exact .inr ⟨i, request, item, rfl, hi, hrequest, hitem, rfl, rfl⟩

/-- The row is that of the requests in the order in which they have written it. -/
def InOrder (render : Json → String) (requests : List PlaybackRequest) (row : DownloadRow)
    (w : PlaybackRace) : Prop :=
  w.row = serveAll render requests row w.written

theorem inOrder_step (hw : w.InOrder render requests row)
    (h : w.step render requests access = some w') :
    w'.InOrder render requests row ↔ w.WritesCurrent requests access := by
  rcases step_cases h with ⟨i, rfl, hrow, hwritten⟩ |
    ⟨i, request, item, rfl, hi, hrequest, hitem, hrow, hwritten⟩
  · rw [InOrder, hrow, hwritten]
    exact iff_of_true hw trivial
  · rw [InOrder, hrow, hwritten, serveAll_append i _ hrequest, ← hw,
      PlaybackRequest.write_eq_serve_iff]
    constructor
    · intro hcurrent _ request' item' hrequest' hitem'
      obtain rfl := Option.some.inj (hrequest.symm.trans hrequest')
      obtain rfl := Option.some.inj (hitem.symm.trans hitem')
      exact hcurrent
    · exact fun hall => hall hi request item hrequest hitem

/-- Each request writes once. -/
theorem written_nodup (hrun : exec (step render requests) (start row) accesses = some w) :
    w.written.Nodup ∧ ∀ i ∈ w.written, i < requests.length := by
  refine exec_preserves (I := fun w => w.written.Nodup ∧ ∀ i ∈ w.written, i < requests.length)
    ?_ ⟨List.nodup_nil, fun i hi => absurd hi List.not_mem_nil⟩ hrun
  rintro w access w' ⟨hnodup, hlt⟩ hstep
  rcases step_cases hstep with ⟨i, -, -, hwritten⟩ | ⟨i, request, item, -, hi, hrequest, -, -, hwritten⟩
  · rw [hwritten]
    exact ⟨hnodup, hlt⟩
  · rw [hwritten]
    constructor
    · rw [List.nodup_append]
      refine ⟨hnodup, List.nodup_singleton i, ?_⟩
      rintro j hj k hk rfl
      exact hi (List.mem_singleton.1 hk ▸ hj)
    · intro j hj
      rcases List.mem_append.1 hj with hj | hj
      · exact hlt j hj
      · obtain rfl := List.mem_singleton.1 hj
        exact (List.getElem?_eq_some_iff.1 hrequest).1

theorem Complete.perm (hcomplete : w.Complete requests)
    (hrun : exec (step render requests) (start row) accesses = some w) :
    w.written.Perm (List.range requests.length) := by
  obtain ⟨hnodup, hlt⟩ := written_nodup hrun
  rw [List.perm_ext_iff_of_nodup hnodup List.nodup_range]
  intro i
  rw [List.mem_range]
  exact ⟨hlt i, hcomplete i⟩

/-- A write that is not current leaves a row that the order of the writes does not give. -/
theorem inOrder_always_iff (render : Json → String) (requests : List PlaybackRequest)
    (row : DownloadRow) (accesses : List RowAccess) :
    Along (step render requests) (fun w access => w.WritesCurrent requests access) (start row) accesses ↔
      ∀ es₁ es₂ w, accesses = es₁ ++ es₂ → exec (step render requests) (start row) es₁ = some w →
        w.InOrder render requests row := by
  apply along_iff_always (I := fun _ => True)
  · exact fun _ _ _ _ _ => trivial
  · exact fun w access w' _ hw hstep => inOrder_step hw hstep
  · intro w access hnone
    cases access with
    | read i => trivial
    | write i =>
      intro hi request item hrequest hitem
      rw [step, if_neg hi, hrequest, hitem] at hnone
      cases hnone
  · trivial
  · rfl

end PlaybackRace

end

/-- In a run whose writes are current, every state reached is that of a serial order. -/
theorem playback_serializable (render : Json → String) (requests : List PlaybackRequest)
    (row : DownloadRow) (accesses : List RowAccess)
    (hcurrent : Along (PlaybackRace.step render requests)
      (fun w access => w.WritesCurrent requests access) (.start row) accesses)
    (hrun : exec (PlaybackRace.step render requests) (.start row) accesses = some w) :
    w.Serializable render requests row ∧
      (w.Complete requests → ∃ order, order.Perm (List.range requests.length) ∧
        w.row = PlaybackRace.serveAll render requests row order) := by
  have hrow := (PlaybackRace.inOrder_always_iff render requests row accesses).1 hcurrent accesses [] w
    (List.append_nil _).symm hrun
  exact ⟨⟨w.written, .refl _, hrow⟩, fun hcomplete => ⟨w.written, hcomplete.perm hrun, hrow⟩⟩

/-- Two tabs that play the same item, and a click that marks it. -/
def twoTabs : List PlaybackRequest :=
  [.save (.savePosition (some "10") none) 5, .save (.savePosition (some "20") none) 6, .markPlayed 7 7]

theorem marked_between : ∃ w, exec (PlaybackRace.step (fun _ => "") twoTabs) (.start unplayedRow)
      [.read 0, .read 2, .write 2, .write 0] = some w ∧
    w.Serializable (fun _ => "") twoTabs unplayedRow := by
  refine ⟨_, rfl, (playback_serializable _ _ _ [.read 0, .read 2, .write 2, .write 0] ?_ rfl).1⟩
  refine ⟨trivial, trivial, ?_, ?_, trivial⟩
  · rintro - request item hrequest hitem
    obtain rfl := Option.some.inj hrequest
    trivial
  · rintro - request item hrequest hitem
    obtain rfl := Option.some.inj hrequest
    obtain rfl := Option.some.inj hitem
    exact fun x hx => rfl

/-- The tab that is behind writes last: ten seconds are lost in whatever order the two come. -/
theorem listened_time_lost : ∃ w, exec (PlaybackRace.step (fun _ => "") (twoTabs.take 2))
      (.start unplayedRow) [.read 0, .read 1, .write 1, .write 0] = some w ∧
    w.Complete (twoTabs.take 2) ∧
    ¬ ∃ order, order.Perm (List.range 2) ∧
      w.row = PlaybackRace.serveAll (fun _ => "") (twoTabs.take 2) unplayedRow order := by
  have hwritten : ∀ i < 2, i ∈ [1, 0] := by decide
  refine ⟨_, rfl, hwritten, ?_⟩
  rintro ⟨order, horder, hrow⟩
  have htotal := congrArg DownloadRow.totalListenedSeconds hrow
  rcases List.perm_pair.1 horder with rfl | rfl
  · exact absurd htotal (by decide +kernel)
  · exact absurd htotal (by decide +kernel)

end GetOffline
