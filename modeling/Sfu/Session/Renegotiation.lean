import Sfu.Session.Match

/-! Negotiating again on the same transceivers. `generate_matched_sdp` raises the
`negotiated` flag of every sender it matches and reads no sender's flag: the matcher, the
unmatched loop and `populate_sdp` each commute with forgetting the flag. Which positions it
marks does not depend on its draws either (the origin, and the order each rid map is
visited in). So a second call on the slice the first one left marks the same positions,
which are already marked, and returns what the first would have returned with the second's
draws; and over any run of calls each answers as on the initial slice, the marks adding up
in any order. -/
namespace Sfu

open Sdp

variable {order : IterationOrder}

/-! ### The view of a transceiver that negotiation reads -/

/-- A transceiver with its sender's `negotiated` flag cleared: everything the engine reads
of it. -/
def RTCRtpTransceiver.unmarked (t : RTCRtpTransceiver) : RTCRtpTransceiver :=
  { t with sender := { t.sender with negotiated := false } }

@[simp] theorem RTCRtpTransceiver.unmarked_mid (t : RTCRtpTransceiver) : t.unmarked.mid = t.mid := rfl

@[simp] theorem RTCRtpTransceiver.setNegotiated_unmarked (t : RTCRtpTransceiver) :
    t.setNegotiated.unmarked = t.unmarked := rfl

/-- The view of a borrowed transceiver: the same slice position. -/
def TransceiverRef.unmarked (r : TransceiverRef) : TransceiverRef := ⟨r.index, r.transceiver.unmarked⟩

/-- The view of a section: its transceiver seen unmarked. -/
def MediaSection.unmarked (s : MediaSection) : MediaSection :=
  { s with transceiver := s.transceiver.map TransceiverRef.unmarked }

/-- The view of the matcher's state: its sections seen unmarked, its positions as they are. -/
def Matching.unmarked (s : Matching) : Matching :=
  { s with mediaSections := s.mediaSections.map MediaSection.unmarked }

/-! ### Each stage commutes with the view -/

theorem findTransceiver_unmarked (mid : String) (i : Nat) (ts : List RTCRtpTransceiver) :
    findTransceiver mid i (ts.map RTCRtpTransceiver.unmarked) =
      (findTransceiver mid i ts).map TransceiverRef.unmarked := by
  induction ts generalizing i with
  | nil => rfl
  | cons t rest ih =>
    simp only [List.map_cons, findTransceiver]
    split <;> simp_all [TransceiverRef.unmarked]

/-- The step of the remote-section loop: the same outcome, with the referenced transceivers
seen unmarked. -/
theorem matchRemoteMedia_unmarked (ts : List RTCRtpTransceiver) (inc : Bool) (s : Matching)
    (media : MediaDescription) :
    matchRemoteMedia order (ts.map RTCRtpTransceiver.unmarked) inc s.unmarked media =
      (matchRemoteMedia order ts inc s media).map Matching.unmarked := by
  unfold matchRemoteMedia
  cases getMidValue media with
  | none => rfl
  | some v =>
    dsimp only
    rw [findTransceiver_unmarked]
    split_ifs
    · rfl
    · simp [Matching.unmarked, MediaSection.unmarked, Except.map]
    · rfl
    all_goals cases findTransceiver v 0 ts <;>
      simp [Matching.unmarked, MediaSection.unmarked, TransceiverRef.unmarked, Except.map]

theorem matchRemoteMediaDescriptions_unmarked (ts : List RTCRtpTransceiver) (inc : Bool)
    (s : Matching) (remote : List MediaDescription) :
    matchRemoteMediaDescriptions order (ts.map RTCRtpTransceiver.unmarked) inc s.unmarked remote =
      ((matchRemoteMediaDescriptions order ts inc s remote).1.unmarked,
        (matchRemoteMediaDescriptions order ts inc s remote).2) := by
  induction remote generalizing s with
  | nil => rfl
  | cons media rest ih =>
    simp only [matchRemoteMediaDescriptions, matchRemoteMedia_unmarked]
    cases matchRemoteMedia order ts inc s media with
    | error e => rfl
    | ok s' => exact ih s'

theorem appendUnmatched_unmarked (matched : List String) (i : Nat) (ts : List RTCRtpTransceiver) :
    appendUnmatched matched i (ts.map RTCRtpTransceiver.unmarked) =
      ((appendUnmatched matched i ts).1, (appendUnmatched matched i ts).2.map MediaSection.unmarked) := by
  induction ts generalizing i with
  | nil => rfl
  | cons t rest ih =>
    simp only [List.map_cons, appendUnmatched, ih]
    split <;> simp_all [MediaSection.unmarked, TransceiverRef.unmarked]

/-- The matcher on unmarked transceivers: the same positions, the same sections seen
unmarked, the same error. -/
theorem matchMediaSections_unmarked (R : RTCSessionDescription) (ts : List RTCRtpTransceiver) (inc : Bool) :
    matchMediaSections order R (ts.map RTCRtpTransceiver.unmarked) inc =
      ((matchMediaSections order R ts inc).1, (matchMediaSections order R ts inc).2.map (·.map MediaSection.unmarked)) := by
  have hLoop : matchRemoteMediaDescriptions order (ts.map RTCRtpTransceiver.unmarked) inc ⟨[], false, [], []⟩
      (remoteMedia R) = ((matchRemoteMediaDescriptions order ts inc ⟨[], false, [], []⟩ (remoteMedia R)).1.unmarked,
        (matchRemoteMediaDescriptions order ts inc ⟨[], false, [], []⟩ (remoteMedia R)).2) :=
    matchRemoteMediaDescriptions_unmarked ts inc ⟨[], false, [], []⟩ (remoteMedia R)
  unfold matchMediaSections
  rw [hLoop]
  rcases matchRemoteMediaDescriptions order ts inc ⟨[], false, [], []⟩ (remoteMedia R) with ⟨s, _ | e⟩
  · cases inc
    · rfl
    · simp only [if_true, Matching.includeUnmatched, Matching.unmarked, appendUnmatched_unmarked]
      split <;> simp [Except.map, MediaSection.unmarked]
  · rfl

/-- One section of `populate_sdp` reads no sender's flag. -/
theorem populateSection_unmarked (fps : List RTCDtlsFingerprint) (c : SocketAddr) (ice : RTCIceParameters)
    (role : ConnectionRole) (i : Nat) (acc : SessionDescription × String) (m : MediaSection) :
    populateSection fps c ice role i acc m.unmarked = populateSection fps c ice role i acc m := by
  rcases m with ⟨id, _ | ⟨idx, t⟩, data, ridMap, off⟩ <;> rfl

theorem populateSections_unmarked (fps : List RTCDtlsFingerprint) (c : SocketAddr) (ice : RTCIceParameters)
    (role : ConnectionRole) (i : Nat) (acc : SessionDescription × String) (S : List MediaSection) :
    populateSections fps c ice role i acc (S.map MediaSection.unmarked) =
      populateSections fps c ice role i acc S := by
  induction S generalizing i acc with
  | nil => rfl
  | cons m rest ih => simp only [List.map_cons, populateSections, populateSection_unmarked, ih]

theorem populateSdp_unmarked (d : SessionDescription) (fps : List RTCDtlsFingerprint) (c : SocketAddr)
    (ice : RTCIceParameters) (role : ConnectionRole) (S : List MediaSection) (b : Bool) :
    populateSdp d fps c ice role (S.map MediaSection.unmarked) b = populateSdp d fps c ice role S b := by
  simp only [populateSdp, populateSections_unmarked]

/-! ### The marks -/

/-- Marking changes no transceiver's unmarked view. -/
theorem markNegotiated_unmarked (ts : List RTCRtpTransceiver) (positions : List Nat) :
    (markNegotiated ts positions).map RTCRtpTransceiver.unmarked = ts.map RTCRtpTransceiver.unmarked := by
  rw [markNegotiated_eq]
  refine List.ext_getElem? fun i => ?_
  simp only [List.getElem?_map, List.getElem?_mapIdx]
  cases ts[i]? <;> simp [apply_ite]

theorem markNegotiated_markNegotiated (ts : List RTCRtpTransceiver) (positions : List Nat) :
    markNegotiated (markNegotiated ts positions) positions = markNegotiated ts positions := by
  simp only [markNegotiated_eq]
  refine List.ext_getElem? fun i => ?_
  simp only [List.getElem?_mapIdx]
  by_cases hi : i ∈ positions <;> cases ts[i]? <;> simp [hi]

/-! ### Negotiating twice -/

/-- Slices with the same unmarked view get the same positions marked and the same
sections, up to the view. -/
theorem matchMediaSections_congr (R : RTCSessionDescription) (inc : Bool) {ts ts' : List RTCRtpTransceiver}
    (h : ts'.map RTCRtpTransceiver.unmarked = ts.map RTCRtpTransceiver.unmarked) :
    (matchMediaSections order R ts' inc).1 = (matchMediaSections order R ts inc).1 ∧
      (matchMediaSections order R ts' inc).2.map (·.map MediaSection.unmarked) =
        (matchMediaSections order R ts inc).2.map (·.map MediaSection.unmarked) := by
  have h' := @matchMediaSections_unmarked order R ts' inc
  rw [h, matchMediaSections_unmarked] at h'
  exact ⟨(Prod.mk.inj h').1.symm, (Prod.mk.inj h').2.symm⟩

private theorem bind_of_unmarked {α : Type} {e e' : Except Error (List MediaSection)}
    (h : e'.map (·.map MediaSection.unmarked) = e.map (·.map MediaSection.unmarked))
    (F : List MediaSection → Except Error α) (hF : ∀ S, F (S.map MediaSection.unmarked) = F S) :
    e' >>= F = e >>= F := by
  cases e' <;> cases e <;> simp only [Except.map, Except.error.injEq, Except.ok.injEq, reduceCtorEq] at h
  · rw [h]
  · change F _ = F _
    rw [← hF, h, hF]

/-- The description `generate_matched_sdp` returns depends on the caller's transceivers
only through their unmarked view. -/
theorem generateMatchedSdp_congr (self : Session) (origin : Origin) (R : RTCSessionDescription)
    (ice : RTCIceParameters) (useIdentity inc : Bool) (role : ConnectionRole) {ts ts' : List RTCRtpTransceiver}
    (h : ts'.map RTCRtpTransceiver.unmarked = ts.map RTCRtpTransceiver.unmarked) :
    (self.generateMatchedSdp origin order R ice ts' useIdentity inc role).2 =
      (self.generateMatchedSdp origin order R ice ts useIdentity inc role).2 := by
  simp only [generateMatchedSdp_eq]
  refine bind_of_unmarked (matchMediaSections_congr R inc h).2 _ fun S => ?_
  cases self.certificates.head? with
  | none => rfl
  | some cert => exact populateSdp_unmarked ..

/-- Answering the same remote description again, on the transceivers as the first call left
them, leaves them as they were and returns what the first call would have returned with the
second call's own draws: its origin and the order its rid maps are visited in. -/
theorem generateMatchedSdp_idempotent (self : Session) (origin origin' : Origin) (order' : IterationOrder)
    (R : RTCSessionDescription) (ice : RTCIceParameters) (ts : List RTCRtpTransceiver) (useIdentity inc : Bool)
    (role : ConnectionRole) :
    self.generateMatchedSdp origin' order' R ice (self.generateMatchedSdp origin order R ice ts useIdentity inc role).1
        useIdentity inc role =
      ((self.generateMatchedSdp origin order R ice ts useIdentity inc role).1,
        (self.generateMatchedSdp origin' order' R ice ts useIdentity inc role).2) := by
  have hFirst : (self.generateMatchedSdp origin order R ice ts useIdentity inc role).1 =
      markNegotiated ts (matchMediaSections order R ts inc).1 := by rw [generateMatchedSdp_eq]
  have hUnmarked := markNegotiated_unmarked ts (matchMediaSections order R ts inc).1
  rw [← hFirst] at hUnmarked
  refine Prod.ext ?_ (generateMatchedSdp_congr self origin' R ice useIdentity inc role hUnmarked)
  rw [generateMatchedSdp_eq, (matchMediaSections_congr R inc hUnmarked).1,
    @matchMediaSections_positions order' order R ts inc, hFirst, markNegotiated_markNegotiated]

/-! ### A run of negotiations -/

/-- The arguments of one `generate_matched_sdp` call other than the caller's transceivers. -/
structure MatchedSdpCall where
  origin : Origin
  ridOrder : IterationOrder
  remoteDescription : RTCSessionDescription
  localIceParams : RTCIceParameters
  useIdentity : Bool
  includeUnmatched : Bool
  connectionRole : ConnectionRole

/-- A sequence of `generate_matched_sdp` calls on one session, each on the transceivers the
call before it left, with their results in order. -/
def Session.generateMatchedSdps (self : Session) :
    List RTCRtpTransceiver → List MatchedSdpCall → List RTCRtpTransceiver × List (Except Error SessionDescription)
  | ts, [] => (ts, [])
  | ts, call :: rest =>
    let step := self.generateMatchedSdp call.origin call.ridOrder call.remoteDescription call.localIceParams ts
      call.useIdentity call.includeUnmatched call.connectionRole
    let run := self.generateMatchedSdps step.1 rest
    (run.1, step.2 :: run.2)

/-- The run from any slice with the view of `ts`: each call answers as on `ts`, and the
marks are those the calls make on `ts`, in turn. -/
theorem generateMatchedSdps_of_unmarked (self : Session) (ts : List RTCRtpTransceiver)
    (calls : List MatchedSdpCall) {ts₀ : List RTCRtpTransceiver}
    (h : ts₀.map RTCRtpTransceiver.unmarked = ts.map RTCRtpTransceiver.unmarked) :
    self.generateMatchedSdps ts₀ calls =
      (markNegotiated ts₀ (calls.flatMap fun call =>
          (matchMediaSections call.ridOrder call.remoteDescription ts call.includeUnmatched).1),
        calls.map fun call => (self.generateMatchedSdp call.origin call.ridOrder call.remoteDescription call.localIceParams ts
          call.useIdentity call.includeUnmatched call.connectionRole).2) := by
  induction calls generalizing ts₀ with
  | nil => rfl
  | cons call rest ih =>
    have hFirst : (self.generateMatchedSdp call.origin call.ridOrder call.remoteDescription call.localIceParams ts₀
        call.useIdentity call.includeUnmatched call.connectionRole).1 =
          markNegotiated ts₀ (matchMediaSections call.ridOrder call.remoteDescription ts call.includeUnmatched).1 := by
      rw [generateMatchedSdp_eq, (matchMediaSections_congr _ _ h).1]
    have hView := (markNegotiated_unmarked ts₀ (matchMediaSections call.ridOrder call.remoteDescription ts
      call.includeUnmatched).1).trans h
    rw [Session.generateMatchedSdps, hFirst, ih hView, generateMatchedSdp_congr _ _ _ _ _ _ _ h]
    simp only [List.flatMap_cons, List.map_cons, markNegotiated, List.foldl_append]

/-- Negotiations on one session do not interfere. Over any sequence of
`generate_matched_sdp` calls, each on the transceivers the call before it left, every call
returns the description or error it would return, with its own origin and rid-map order,
on the initial transceivers, and the run leaves them with exactly the senders marked
negotiated that were marked before or that some call matches on the initial
transceivers; nothing else changes. -/
theorem generateMatchedSdps_independent (self : Session) (ts : List RTCRtpTransceiver)
    (calls : List MatchedSdpCall) :
    (self.generateMatchedSdps ts calls).2 = calls.map (fun call =>
        (self.generateMatchedSdp call.origin call.ridOrder call.remoteDescription call.localIceParams ts
          call.useIdentity call.includeUnmatched call.connectionRole).2) ∧
      (self.generateMatchedSdps ts calls).1 = ts.mapIdx fun i t =>
        if ∃ call ∈ calls, i ∈ (matchMediaSections call.ridOrder call.remoteDescription ts call.includeUnmatched).1
        then t.setNegotiated else t := by
  rw [generateMatchedSdps_of_unmarked self ts calls rfl, markNegotiated_eq]
  simp only [List.mem_flatMap, true_and]

end Sfu
