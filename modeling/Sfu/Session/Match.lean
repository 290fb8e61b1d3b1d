import Sfu.Description.Populate
import Sfu.Session.Endpoint

/-! `Session::generate_matched_sdp`: the remote-section loop that matches remote mids to
local transceivers, the unmatched transceivers and the synthetic data section of an
offer, the certificate lookup and `populate_sdp`. The senders' `set_negotiated` writes
are the call's only effect on its inputs; nothing in the call reads them, so they are
recorded as slice positions and applied when the call returns, failed or not. -/
namespace Sfu

open Sdp

variable {order : IterationOrder}

/-- `local_transceivers.iter().find(|t| &t.mid == mid)`, with where it was found. -/
def findTransceiver (mid : String) : Nat → List RTCRtpTransceiver → Option TransceiverRef
  | _, [] => none
  | i, t :: rest => if t.mid = mid then some ⟨i, t⟩ else findTransceiver mid (i + 1) rest

/-- The locals of the matcher: the sections so far, whether a remote application section
was seen, the matched mids, and the positions whose sender was marked negotiated. -/
structure Matching where
  mediaSections : List MediaSection
  alreadyHaveApplicationMediaSection : Bool
  matched : List String
  negotiated : List Nat
  deriving DecidableEq, Repr

/-- One iteration of the remote-section loop. -/
def matchRemoteMedia (ridOrder : IterationOrder) (localTransceivers : List RTCRtpTransceiver)
    (includeUnmatched : Bool) (s : Matching) (media : MediaDescription) : Except Error Matching :=
  match getMidValue media with
  | none => .ok s
  | some midValue =>
    if midValue = "" then .error (.other "ErrPeerConnRemoteDescriptionWithoutMidValue")
    else if media.mediaName.media = mediaSectionApplication then
      .ok { s with
        mediaSections := s.mediaSections ++ [{ id := midValue, data := true }]
        alreadyHaveApplicationMediaSection := true }
    else
      let kind := RTPCodecType.fromStr media.mediaName.media
      let direction := getPeerDirection media
      if kind = .unspecified ∨ direction = .unspecified then .ok s
      else
        match findTransceiver midValue 0 localTransceivers with
        | some t =>
          let matchedSection : MediaSection :=
            { id := midValue, transceiver := some t, ridMap := getRids ridOrder media
              offeredDirection := if includeUnmatched then none else some direction }
          .ok { s with
            negotiated := s.negotiated ++ [t.index]
            matched := s.matched ++ [t.transceiver.mid]
            mediaSections := s.mediaSections ++ [matchedSection] }
        | none => .error (.other "ErrPeerConnTransceiverMidNil")

/-- The remote-section loop; it stops at the first error, keeping the marks made so far. -/
def matchRemoteMediaDescriptions (ridOrder : IterationOrder) (localTransceivers : List RTCRtpTransceiver)
    (includeUnmatched : Bool) : Matching → List MediaDescription → Matching × Option Error
  | s, [] => (s, none)
  | s, media :: rest =>
    match matchRemoteMedia ridOrder localTransceivers includeUnmatched s media with
    | .ok s => matchRemoteMediaDescriptions ridOrder localTransceivers includeUnmatched s rest
    | .error e => (s, some e)

/-- The `include_unmatched` loop from slice position `i`: each transceiver whose mid was
not matched gets its sender marked and a section of its own. -/
def appendUnmatched (matched : List String) : Nat → List RTCRtpTransceiver → List Nat × List MediaSection
  | _, [] => ([], [])
  | i, t :: rest =>
    let (negotiated, sections) := appendUnmatched matched (i + 1) rest
    if t.mid ∈ matched then (negotiated, sections)
    else (i :: negotiated, { id := t.mid, transceiver := some ⟨i, t⟩ } :: sections)

/-- The offer path after the remote loop: the unmatched transceivers, then a data section
named by the section count when the remote side had no application section. -/
def Matching.includeUnmatched (localTransceivers : List RTCRtpTransceiver) (s : Matching) : Matching :=
  let (negotiated, sections) := appendUnmatched s.matched 0 localTransceivers
  let s := { s with negotiated := s.negotiated ++ negotiated, mediaSections := s.mediaSections ++ sections }
  if s.alreadyHaveApplicationMediaSection then s
  else { s with mediaSections := s.mediaSections ++ [{ id := toString s.mediaSections.length, data := true }] }

/-- The media descriptions of a remote description, none when it is not parsed. -/
def remoteMedia (remoteDescription : RTCSessionDescription) : List MediaDescription :=
  match remoteDescription.parsed with
  | some parsed => parsed.mediaDescriptions
  | none => []

/-- The sections `generate_matched_sdp` hands to `populate_sdp`, with the positions whose
sender it marked negotiated, also when it fails. -/
def matchMediaSections (ridOrder : IterationOrder) (remoteDescription : RTCSessionDescription)
    (localTransceivers : List RTCRtpTransceiver) (includeUnmatched : Bool) :
    List Nat × Except Error (List MediaSection) :=
  let (s, failure) := matchRemoteMediaDescriptions ridOrder localTransceivers includeUnmatched ⟨[], false, [], []⟩
    (remoteMedia remoteDescription)
  match failure with
  | some e => (s.negotiated, .error e)
  | none =>
    let s := if includeUnmatched then s.includeUnmatched localTransceivers else s
    (s.negotiated, .ok s.mediaSections)

/-- The caller's slice after `set_negotiated` on the senders at these positions. -/
def markNegotiated (localTransceivers : List RTCRtpTransceiver) (positions : List Nat) :
    List RTCRtpTransceiver :=
  positions.foldl (fun ts i => ts.modify RTCRtpTransceiver.setNegotiated i) localTransceivers

/-- `Session::generate_matched_sdp`, returning the caller's transceivers as the call
leaves them. `origin` is the random `o=` line of the fresh description, and `ridOrder` the
order in which this call's rid maps are visited. -/
def Session.generateMatchedSdp (self : Session) (origin : Origin) (ridOrder : IterationOrder)
    (remoteDescription : RTCSessionDescription)
    (localIceParams : RTCIceParameters) (localTransceivers : List RTCRtpTransceiver)
    (useIdentity includeUnmatched : Bool) (connectionRole : ConnectionRole) :
    List RTCRtpTransceiver × Except Error SessionDescription :=
  let d := SessionDescription.newJsepSessionDescription origin useIdentity
  let (negotiated, sections) := matchMediaSections ridOrder remoteDescription localTransceivers includeUnmatched
  let transceivers := markNegotiated localTransceivers negotiated
  match sections with
  | .error e => (transceivers, .error e)
  | .ok mediaSections =>
    match self.certificates.head? with
    | none => (transceivers, .error (.other "ErrNonCertificate"))
    | some cert => (transceivers, populateSdp d cert.getFingerprints self.localAddr localIceParams
        connectionRole mediaSections true)

/-! ### The remote-section loop in closed form -/

/-- A remote media section the engine can answer: not an application section, with a
media kind and a direction it recognises. -/
def isMediaSection (media : MediaDescription) : Bool :=
  media.mediaName.media ≠ mediaSectionApplication && RTPCodecType.fromStr media.mediaName.media ≠ .unspecified &&
    getPeerDirection media ≠ .unspecified

theorem isMediaSection_iff {media : MediaDescription} :
    isMediaSection media = true ↔ media.mediaName.media ≠ mediaSectionApplication ∧
      RTPCodecType.fromStr media.mediaName.media ≠ .unspecified ∧ getPeerDirection media ≠ .unspecified := by
  simp [isMediaSection, and_assoc]

/-- The section one remote media description adds when the loop gets past it. -/
def remoteSection (ridOrder : IterationOrder) (localTransceivers : List RTCRtpTransceiver)
    (includeUnmatched : Bool) (media : MediaDescription) : Option MediaSection :=
  match getMidValue media with
  | none => none
  | some midValue =>
    if media.mediaName.media = mediaSectionApplication then some { id := midValue, data := true }
    else if isMediaSection media then
      (findTransceiver midValue 0 localTransceivers).map fun t =>
        { id := midValue, transceiver := some t, ridMap := getRids ridOrder media
          offeredDirection := if includeUnmatched then none else some (getPeerDirection media) }
    else none

/-- The remote media descriptions the loop stops on: an empty mid, or a media section
whose mid is no local transceiver's. -/
def RejectsMedia (localTransceivers : List RTCRtpTransceiver) (media : MediaDescription) : Prop :=
  getMidValue media = some "" ∨
    ∃ midValue, getMidValue media = some midValue ∧ midValue ≠ "" ∧ isMediaSection media ∧
      findTransceiver midValue 0 localTransceivers = none

def MediaSection.transceiverIndex (m : MediaSection) : Option Nat := m.transceiver.map (·.index)

def MediaSection.transceiverMid (m : MediaSection) : Option String :=
  m.transceiver.map (·.transceiver.mid)

/-- What the loop records for a section it adds. -/
def Matching.record (s : Matching) (m : MediaSection) : Matching :=
  match m.transceiver with
  | none => { s with mediaSections := s.mediaSections ++ [m], alreadyHaveApplicationMediaSection := true }
  | some t => { s with
      negotiated := s.negotiated ++ [t.index]
      matched := s.matched ++ [t.transceiver.mid]
      mediaSections := s.mediaSections ++ [m] }

theorem findTransceiver_some {mid : String} {i : Nat} {ts : List RTCRtpTransceiver} {r : TransceiverRef}
    (h : findTransceiver mid i ts = some r) :
    r.transceiver ∈ ts ∧ r.transceiver.mid = mid ∧ i ≤ r.index ∧ ts[r.index - i]? = some r.transceiver := by
  induction ts generalizing i with
  | nil => cases h
  | cons t rest ih =>
    simp only [findTransceiver] at h
    split at h
    · cases h
      exact ⟨List.mem_cons_self _ _, ‹_›, le_refl i, by rw [Nat.sub_self, List.getElem?_cons_zero]⟩
    · obtain ⟨hMem, hMid, hLe, hGet⟩ := ih h
      refine ⟨List.mem_cons_of_mem _ hMem, hMid, by omega, ?_⟩
      rw [show r.index - i = r.index - (i + 1) + 1 by omega, List.getElem?_cons_succ]
      exact hGet

theorem findTransceiver_none {mid : String} {i : Nat} {ts : List RTCRtpTransceiver} :
    findTransceiver mid i ts = none ↔ ∀ t ∈ ts, t.mid ≠ mid := by
  induction ts generalizing i with
  | nil => simp [findTransceiver]
  | cons t rest ih => by_cases h : t.mid = mid <;> simp [findTransceiver, h, ih]

/-- The loop gets past a remote section it does not reject, adding what `remoteSection`
says. -/
theorem matchRemoteMedia_ok {ts : List RTCRtpTransceiver} {inc : Bool} (s : Matching)
    {media : MediaDescription} (h : ¬RejectsMedia ts media) :
    matchRemoteMedia order ts inc s media =
      .ok (match remoteSection order ts inc media with
        | none => s
        | some m => s.record m) := by
  unfold matchRemoteMedia remoteSection
  unfold RejectsMedia at h
  cases hMid : getMidValue media with
  | none => rfl
  | some midValue =>
    have hEmpty : midValue ≠ "" := fun h' => h (.inl (h' ▸ hMid))
    by_cases hApp : media.mediaName.media = mediaSectionApplication
    · simp only [hEmpty, hApp, if_false, if_true]
      rfl
    by_cases hKind : isMediaSection media
    · obtain ⟨-, hKnownKind, hKnownDirection⟩ := isMediaSection_iff.mp hKind
      cases hFind : findTransceiver midValue 0 ts with
      | none => exact absurd (.inr ⟨midValue, hMid, hEmpty, hKind, hFind⟩) h
      | some t =>
        simp only [hEmpty, hApp, hKind, hKnownKind, hKnownDirection, hFind, if_false, if_true, or_self]
        rfl
    · have hUnknown : RTPCodecType.fromStr media.mediaName.media = .unspecified ∨
          getPeerDirection media = .unspecified := by
        simpa [isMediaSection, hApp, or_iff_not_imp_left] using hKind
      simp only [hEmpty, hApp, hKind, hUnknown, if_false, if_true]
      rfl

/-- The loop stops only on a section it rejects, with one of its two errors. -/
theorem matchRemoteMedia_error {ts : List RTCRtpTransceiver} {inc : Bool} {s : Matching}
    {media : MediaDescription} {e : Error} (h : matchRemoteMedia order ts inc s media = .error e) :
    RejectsMedia ts media ∧ (e = .other "ErrPeerConnRemoteDescriptionWithoutMidValue" ∨
      e = .other "ErrPeerConnTransceiverMidNil") := by
  have hRejects : RejectsMedia ts media := Classical.byContradiction fun hNo => by
    rw [matchRemoteMedia_ok s hNo] at h
    cases h
  refine ⟨hRejects, ?_⟩
  rcases hRejects with hEmpty | ⟨midValue, hMid, hNonempty, hKind, hFind⟩
  · simp only [matchRemoteMedia, hEmpty, if_true, Except.error.injEq] at h
    exact .inl h.symm
  · obtain ⟨hApp, hKnownKind, hKnownDirection⟩ := isMediaSection_iff.mp hKind
    simp only [matchRemoteMedia, hMid, hNonempty, hApp, hKnownKind, hKnownDirection, hFind, if_false,
      or_self, Except.error.injEq] at h
    exact .inr h.symm

/-- A rejected section stops the loop. -/
theorem matchRemoteMedia_rejects {ts : List RTCRtpTransceiver} {inc : Bool} (s : Matching)
    {media : MediaDescription} (h : RejectsMedia ts media) :
    ∃ e, matchRemoteMedia order ts inc s media = .error e := by
  unfold matchRemoteMedia
  rcases h with hEmpty | ⟨midValue, hMid, hNonempty, hKind, hFind⟩
  · simp [hEmpty]
  · obtain ⟨hApp, hKnownKind, hKnownDirection⟩ := isMediaSection_iff.mp hKind
    simp [hMid, hNonempty, hApp, hKnownKind, hKnownDirection, hFind]

/-- Recording sections appends them, marks and matches their transceivers, and notes a
data section. -/
theorem foldl_record (s : Matching) (ms : List MediaSection) :
    (ms.foldl Matching.record s).mediaSections = s.mediaSections ++ ms ∧
      (ms.foldl Matching.record s).negotiated = s.negotiated ++ ms.filterMap (·.transceiverIndex) ∧
      (ms.foldl Matching.record s).matched = s.matched ++ ms.filterMap (·.transceiverMid) ∧
      (ms.foldl Matching.record s).alreadyHaveApplicationMediaSection =
        (s.alreadyHaveApplicationMediaSection || ms.any (·.transceiver.isNone)) := by
  induction ms generalizing s with
  | nil => simp
  | cons m rest ih =>
    obtain ⟨h1, h2, h3, h4⟩ := ih (s.record m)
    simp only [List.foldl_cons, h1, h2, h3, h4]
    unfold Matching.record MediaSection.transceiverIndex MediaSection.transceiverMid
    split <;> simp_all

/-- The loop runs to the end exactly when it rejects no section; it then has recorded
the sections `remoteSection` gives, in order. -/
theorem matchRemoteMediaDescriptions_ok {ts : List RTCRtpTransceiver} {inc : Bool}
    {ms : List MediaDescription} (h : ∀ m ∈ ms, ¬RejectsMedia ts m) (s : Matching) :
    matchRemoteMediaDescriptions order ts inc s ms =
      ((ms.filterMap (remoteSection order ts inc)).foldl Matching.record s, none) := by
  induction ms generalizing s with
  | nil => rfl
  | cons m rest ih =>
    simp only [List.forall_mem_cons] at h
    simp only [matchRemoteMediaDescriptions, matchRemoteMedia_ok s h.1, List.filterMap_cons]
    cases remoteSection order ts inc m <;> exact ih h.2 _

theorem matchRemoteMediaDescriptions_error {ts : List RTCRtpTransceiver} {inc : Bool}
    {ms : List MediaDescription} {s : Matching} {e : Error}
    (h : (matchRemoteMediaDescriptions order ts inc s ms).2 = some e) :
    (∃ m ∈ ms, RejectsMedia ts m) ∧ (e = .other "ErrPeerConnRemoteDescriptionWithoutMidValue" ∨
      e = .other "ErrPeerConnTransceiverMidNil") := by
  induction ms generalizing s with
  | nil => cases h
  | cons m rest ih =>
    simp only [matchRemoteMediaDescriptions] at h
    split at h
    · obtain ⟨⟨m', hm', hRejects⟩, he⟩ := ih h
      exact ⟨⟨m', List.mem_cons_of_mem _ hm', hRejects⟩, he⟩
    · rename_i e' hStep
      cases h
      obtain ⟨hRejects, he⟩ := matchRemoteMedia_error hStep
      exact ⟨⟨m, List.mem_cons_self _ _, hRejects⟩, he⟩

theorem matchRemoteMediaDescriptions_none_iff {ts : List RTCRtpTransceiver} {inc : Bool}
    {ms : List MediaDescription} {s : Matching} :
    (matchRemoteMediaDescriptions order ts inc s ms).2 = none ↔ ∀ m ∈ ms, ¬RejectsMedia ts m := by
  refine ⟨fun h m hm hRejects => ?_, fun h => by rw [matchRemoteMediaDescriptions_ok h]⟩
  induction ms generalizing s with
  | nil => cases hm
  | cons m' rest ih =>
    simp only [matchRemoteMediaDescriptions] at h
    split at h
    · rcases List.mem_cons.mp hm with rfl | hm
      · obtain ⟨e, he⟩ := @matchRemoteMedia_rejects order ts inc s _ hRejects
        simp_all
      · exact ih h hm
    · cases h

/-- The loop stops at the first remote section it rejects, with what it recorded for the
sections before that one. -/
theorem matchRemoteMediaDescriptions_stops {ts : List RTCRtpTransceiver} {inc : Bool}
    {pre post : List MediaDescription} {m : MediaDescription} (hPre : ∀ x ∈ pre, ¬RejectsMedia ts x)
    (hm : RejectsMedia ts m) (s : Matching) :
    (matchRemoteMediaDescriptions order ts inc s (pre ++ m :: post)).1 =
        (pre.filterMap (remoteSection order ts inc)).foldl Matching.record s ∧
      ∃ e, (matchRemoteMediaDescriptions order ts inc s (pre ++ m :: post)).2 = some e := by
  induction pre generalizing s with
  | nil =>
    obtain ⟨e, he⟩ := @matchRemoteMedia_rejects order ts inc s _ hm
    simp [matchRemoteMediaDescriptions, he]
  | cons x pre ih =>
    simp only [List.forall_mem_cons] at hPre
    simp only [List.cons_append, matchRemoteMediaDescriptions, matchRemoteMedia_ok s hPre.1, List.filterMap_cons]
    cases remoteSection order ts inc x <;> exact ih hPre.2 _

/-- The unmatched pass marks exactly the transceivers of the sections it adds. -/
theorem appendUnmatched_fst (matched : List String) (i : Nat) (ts : List RTCRtpTransceiver) :
    (appendUnmatched matched i ts).1 = (appendUnmatched matched i ts).2.filterMap (·.transceiverIndex) := by
  induction ts generalizing i with
  | nil => rfl
  | cons t rest ih =>
    by_cases h : t.mid ∈ matched <;> simp [appendUnmatched, h, ih, MediaSection.transceiverIndex]

theorem mem_appendUnmatched {matched : List String} {i : Nat} {ts : List RTCRtpTransceiver}
    {m : MediaSection} (h : m ∈ (appendUnmatched matched i ts).2) :
    ∃ j t, t ∈ ts ∧ t.mid ∉ matched ∧ m = { id := t.mid, transceiver := some ⟨j, t⟩ } := by
  induction ts generalizing i with
  | nil => cases h
  | cons t rest ih =>
    by_cases ht : t.mid ∈ matched
    · simp only [appendUnmatched, ht, if_true] at h
      obtain ⟨j, t', hMem, hNot, rfl⟩ := ih h
      exact ⟨j, t', List.mem_cons_of_mem _ hMem, hNot, rfl⟩
    · simp only [appendUnmatched, ht, if_false, List.mem_cons] at h
      rcases h with rfl | h
      · exact ⟨i, t, List.mem_cons_self _ _, ht, rfl⟩
      · obtain ⟨j, t', hMem, hNot, rfl⟩ := ih h
        exact ⟨j, t', List.mem_cons_of_mem _ hMem, hNot, rfl⟩

theorem appendUnmatched_complete {matched : List String} {i : Nat} {ts : List RTCRtpTransceiver}
    {t : RTCRtpTransceiver} (ht : t ∈ ts) (hNot : t.mid ∉ matched) :
    ∃ j, ({ id := t.mid, transceiver := some ⟨j, t⟩ } : MediaSection) ∈ (appendUnmatched matched i ts).2 := by
  induction ts generalizing i with
  | nil => cases ht
  | cons t' rest ih =>
    rcases List.mem_cons.mp ht with rfl | ht
    · exact ⟨i, by simp [appendUnmatched, hNot]⟩
    · obtain ⟨j, hj⟩ := @ih (i + 1) ht
      exact ⟨j, by by_cases h : t'.mid ∈ matched <;> simp [appendUnmatched, h, hj]⟩

/-- What the matcher builds when it rejects no remote section: the remote sections in
order, then, for an offer, one section per unmatched transceiver and, when the remote
side had no application section, a data section named by the count before it. -/
def matchedSections (ridOrder : IterationOrder) (remote : List MediaDescription)
    (localTransceivers : List RTCRtpTransceiver) (includeUnmatched : Bool) : List MediaSection :=
  let kept := remote.filterMap (remoteSection ridOrder localTransceivers includeUnmatched)
  if includeUnmatched then
    let sections := kept ++ (appendUnmatched (kept.filterMap (·.transceiverMid)) 0 localTransceivers).2
    if kept.any (·.transceiver.isNone) then sections
    else sections ++ [{ id := toString sections.length, data := true }]
  else kept

/-- The matcher's loops compute `matchedSections`, marking exactly the transceivers its
sections reference; they fail exactly when a remote section is rejected. -/
theorem matchMediaSections_eq {R : RTCSessionDescription} {ts : List RTCRtpTransceiver} {inc : Bool}
    (h : ∀ m ∈ remoteMedia R, ¬RejectsMedia ts m) :
    matchMediaSections order R ts inc = ((matchedSections order (remoteMedia R) ts inc).filterMap (·.transceiverIndex),
      .ok (matchedSections order (remoteMedia R) ts inc)) := by
  obtain ⟨h1, h2, h3, h4⟩ :=
    foldl_record ⟨[], false, [], []⟩ ((remoteMedia R).filterMap (remoteSection order ts inc))
  simp only [List.nil_append, Bool.false_or] at h1 h2 h3 h4
  simp only [matchMediaSections, matchRemoteMediaDescriptions_ok h, matchedSections]
  cases inc
  · simp [h1, h2]
  · simp only [if_true, Matching.includeUnmatched, h1, h3, h4, appendUnmatched_fst]
    split <;> simp [h2, List.filterMap_append, MediaSection.transceiverIndex]

theorem matchMediaSections_error {R : RTCSessionDescription} {ts : List RTCRtpTransceiver} {inc : Bool}
    {e : Error} (h : (matchMediaSections order R ts inc).2 = .error e) :
    (∃ m ∈ remoteMedia R, RejectsMedia ts m) ∧ (e = .other "ErrPeerConnRemoteDescriptionWithoutMidValue" ∨
      e = .other "ErrPeerConnTransceiverMidNil") := by
  unfold matchMediaSections at h
  split at h
  rename_i s failure hLoop
  split at h
  · cases h
    exact matchRemoteMediaDescriptions_error (by rw [hLoop])
  · cases h

theorem matchMediaSections_ok_iff {R : RTCSessionDescription} {ts : List RTCRtpTransceiver} {inc : Bool} :
    (∃ S, (matchMediaSections order R ts inc).2 = .ok S) ↔ ∀ m ∈ remoteMedia R, ¬RejectsMedia ts m := by
  refine ⟨fun ⟨S, hS⟩ m hm hRejects => ?_, fun h => ⟨_, by rw [matchMediaSections_eq h]⟩⟩
  unfold matchMediaSections at hS
  split at hS
  rename_i s failure hLoop
  split at hS
  · cases hS
  · rename_i hNone
    have := (@matchRemoteMediaDescriptions_none_iff order ts inc _ ⟨[], false, [], []⟩).mp (by rw [hLoop])
    exact this m hm hRejects

/-- The positions recorded for the sections the loop adds: the first transceiver with the
mid of each recognised remote media section, in order. -/
theorem remoteSections_positions (ts : List RTCRtpTransceiver) (inc : Bool) (l : List MediaDescription) :
    (l.filterMap (remoteSection order ts inc)).filterMap (·.transceiverIndex) =
      (l.filter isMediaSection).filterMap fun media =>
        (getMidValue media).bind fun v => (findTransceiver v 0 ts).map (·.index) := by
  rw [List.filterMap_filterMap, List.filterMap_filter]
  refine List.filterMap_congr fun media _ => ?_
  unfold remoteSection
  cases getMidValue media with
  | none => simp
  | some v =>
    by_cases hApp : media.mediaName.media = mediaSectionApplication
    · simp [hApp, isMediaSection, MediaSection.transceiverIndex]
    · by_cases hKind : isMediaSection media
      · cases h : findTransceiver v 0 ts <;> simp [h, hApp, hKind, MediaSection.transceiverIndex]
      · simp [hApp, hKind]

/-- Which transceiver each section the loop adds refers to does not depend on the order the
rid maps are visited in. -/
theorem remoteSections_transceiver (order' : IterationOrder) (ts : List RTCRtpTransceiver) (inc : Bool)
    (l : List MediaDescription) :
    (l.filterMap (remoteSection order ts inc)).map (·.transceiver) =
      (l.filterMap (remoteSection order' ts inc)).map (·.transceiver) := by
  simp only [List.map_filterMap]
  refine List.filterMap_congr fun media _ => ?_
  unfold remoteSection
  cases getMidValue media with
  | none => rfl
  | some v =>
    dsimp only
    split_ifs <;> simp [Option.map_map, Function.comp_def]

/-- Nor does which transceiver each of the matcher's sections refers to. -/
theorem matchedSections_transceiver (order' : IterationOrder) (remote : List MediaDescription)
    (ts : List RTCRtpTransceiver) (inc : Bool) :
    (matchedSections order remote ts inc).map (·.transceiver) =
      (matchedSections order' remote ts inc).map (·.transceiver) := by
  have hKept := @remoteSections_transceiver order order' ts inc remote
  have hMids : (remote.filterMap (remoteSection order ts inc)).filterMap (·.transceiverMid) =
      (remote.filterMap (remoteSection order' ts inc)).filterMap (·.transceiverMid) := by
    have h := congrArg (List.filterMap (Option.map (·.transceiver.mid))) hKept
    simp only [List.filterMap_map] at h
    exact h
  have hAny : (remote.filterMap (remoteSection order ts inc)).any (·.transceiver.isNone) =
      (remote.filterMap (remoteSection order' ts inc)).any (·.transceiver.isNone) := by
    have hView (l : List MediaSection) :
        l.any (·.transceiver.isNone) = (l.map (·.transceiver)).any Option.isNone := by
      induction l <;> simp [*]
    rw [hView, hView, hKept]
  unfold matchedSections
  cases inc
  · exact hKept
  · simp only [if_true, hAny, hMids]
    split <;> simp [hKept]

/-- Where the matcher stops at a rejected remote section, it has marked the positions it
recorded for the sections before it, and it fails. -/
theorem matchMediaSections_stops {R : RTCSessionDescription} {ts : List RTCRtpTransceiver} {inc : Bool}
    {pre post : List MediaDescription} {m : MediaDescription} (hR : remoteMedia R = pre ++ m :: post)
    (hPre : ∀ x ∈ pre, ¬RejectsMedia ts x) (hm : RejectsMedia ts m) :
    (matchMediaSections order R ts inc).1 =
        (pre.filterMap (remoteSection order ts inc)).filterMap (·.transceiverIndex) ∧
      ∃ e, (matchMediaSections order R ts inc).2 = .error e := by
  obtain ⟨hState, _, he⟩ :=
    @matchRemoteMediaDescriptions_stops order ts inc pre post m hPre hm ⟨[], false, [], []⟩
  unfold matchMediaSections
  rw [hR]
  rcases hLoop : matchRemoteMediaDescriptions order ts inc ⟨[], false, [], []⟩ (pre ++ m :: post) with
    ⟨s, _ | e⟩
  · simp [hLoop] at he
  · rw [hLoop] at hState
    subst hState
    exact ⟨(foldl_record _ _).2.1, e, rfl⟩

private theorem exists_first {α : Type} {P : α → Prop} {l : List α} (h : ∃ x ∈ l, P x) :
    ∃ pre x post, l = pre ++ x :: post ∧ (∀ y ∈ pre, ¬P y) ∧ P x := by
  induction l with
  | nil => simp at h
  | cons a l ih =>
    by_cases ha : P a
    · exact ⟨[], a, l, rfl, by simp, ha⟩
    · obtain ⟨pre, x, post, rfl, hPre, hx⟩ := ih (by simpa [ha] using h)
      exact ⟨a :: pre, x, post, rfl, List.forall_mem_cons.mpr ⟨ha, hPre⟩, hx⟩

/-- Every remote description either has a first section the matcher rejects, or none. -/
theorem remoteMedia_first_rejected (R : RTCSessionDescription) (ts : List RTCRtpTransceiver) :
    (∀ m ∈ remoteMedia R, ¬RejectsMedia ts m) ∨ ∃ pre m post, remoteMedia R = pre ++ m :: post ∧
      (∀ x ∈ pre, ¬RejectsMedia ts x) ∧ RejectsMedia ts m := by
  by_cases h : ∀ m ∈ remoteMedia R, ¬RejectsMedia ts m
  · exact .inl h
  · push_neg at h
    exact .inr (exists_first h)

/-- The positions the matcher marks do not depend on the order the rid maps are visited in. -/
theorem matchMediaSections_positions (order' : IterationOrder) (R : RTCSessionDescription)
    (ts : List RTCRtpTransceiver) (inc : Bool) :
    (matchMediaSections order R ts inc).1 = (matchMediaSections order' R ts inc).1 := by
  rcases remoteMedia_first_rejected R ts with hNo | ⟨pre, m, post, hR, hPre, hm⟩
  · rw [@matchMediaSections_eq order R ts inc hNo, @matchMediaSections_eq order' R ts inc hNo]
    have h := congrArg (List.filterMap (Option.map (·.index)))
      (@matchedSections_transceiver order order' (remoteMedia R) ts inc)
    simp only [List.filterMap_map] at h
    exact h
  · rw [(@matchMediaSections_stops order R ts inc pre post m hR hPre hm).1,
      (@matchMediaSections_stops order' R ts inc pre post m hR hPre hm).1,
      remoteSections_positions, remoteSections_positions]

/-- What `generate_matched_sdp` returns, once the matcher has run: the caller's
transceivers with the marks, and the matcher's error, `ErrNonCertificate`, or what
`populate_sdp` gives. -/
theorem generateMatchedSdp_eq (self : Session) (origin : Origin) (R : RTCSessionDescription)
    (ice : RTCIceParameters) (ts : List RTCRtpTransceiver) (useIdentity inc : Bool) (role : ConnectionRole) :
    self.generateMatchedSdp origin order R ice ts useIdentity inc role =
      (markNegotiated ts (matchMediaSections order R ts inc).1,
        (matchMediaSections order R ts inc).2 >>= fun S =>
          match self.certificates.head? with
          | none => .error (.other "ErrNonCertificate")
          | some cert => populateSdp (.newJsepSessionDescription origin useIdentity) cert.getFingerprints
              self.localAddr ice role S true) := by
  unfold Session.generateMatchedSdp
  rcases matchMediaSections order R ts inc with ⟨negotiated, _ | S⟩
  · rfl
  · cases self.certificates.head? <;> rfl

/-- A description comes back only when the matcher rejected no remote section and the
session has a certificate; it is then `populate_sdp` over `matchedSections`. -/
theorem generateMatchedSdp_ok {self : Session} {origin : Origin} {R : RTCSessionDescription}
    {ice : RTCIceParameters} {ts : List RTCRtpTransceiver} {useIdentity inc : Bool} {role : ConnectionRole}
    {d : SessionDescription} (h : (self.generateMatchedSdp origin order R ice ts useIdentity inc role).2 = .ok d) :
    (∀ m ∈ remoteMedia R, ¬RejectsMedia ts m) ∧ ∃ cert, self.certificates.head? = some cert ∧
      populateSdp (.newJsepSessionDescription origin useIdentity) cert.getFingerprints self.localAddr ice role
        (matchedSections order (remoteMedia R) ts inc) true = .ok d := by
  rw [generateMatchedSdp_eq] at h
  have hNo : ∀ m ∈ remoteMedia R, ¬RejectsMedia ts m := matchMediaSections_ok_iff.mp <| by
    cases hMatch : (matchMediaSections order R ts inc).2 with
    | error e => simp [hMatch, bind, Except.bind] at h
    | ok S => exact ⟨S, rfl⟩
  simp only [matchMediaSections_eq hNo, bind, Except.bind] at h
  split at h
  · cases h
  · exact ⟨hNo, _, ‹_›, h⟩

/-- Marking is order-free and idempotent: the caller's slice with the senders at the
recorded positions marked, and nothing else changed. -/
theorem markNegotiated_eq (ts : List RTCRtpTransceiver) (positions : List Nat) :
    markNegotiated ts positions = ts.mapIdx fun i t => if i ∈ positions then t.setNegotiated else t := by
  induction positions generalizing ts with
  | nil => exact List.ext_getElem? fun i => by simp [markNegotiated]
  | cons p rest ih =>
    rw [markNegotiated, List.foldl_cons, ← markNegotiated, ih]
    refine List.ext_getElem? fun i => ?_
    simp only [List.getElem?_mapIdx, List.getElem?_modify, List.mem_cons]
    by_cases hi : p = i
    · subst hi
      cases ts[p]? <;> simp
    · cases ts[i]? <;> simp [hi, Ne.symm hi]

end Sfu
