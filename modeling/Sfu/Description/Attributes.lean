import Mathlib.Data.List.Nodup
import Sfu.Description.Types

/-! Reading a remote section (`get_mid_value`, `get_peer_direction`, `get_rids`) and
embedding the local host candidate into a section being built. -/
namespace Sfu

open Sdp

def sdpAttributeRid : String := "rid"

/-- The value of the first `mid` attribute, if that attribute has one. -/
def getMidValue (media : MediaDescription) : Option String :=
  (media.attributes.find? (·.key = "mid")).bind (·.value)

/-- The first attribute whose key names a direction, or `unspecified`. -/
def getPeerDirection (media : MediaDescription) : RTCRtpTransceiverDirection :=
  match media.attributes.find? (fun a => RTCRtpTransceiverDirection.fromStr a.key ≠ .unspecified) with
  | some a => RTCRtpTransceiverDirection.fromStr a.key
  | none => .unspecified

/-- `get_peer_direction` of a section with one line keyed by the name of `d` and none
keyed by another direction's name reads `d`; with none at all it reads `unspecified`. -/
theorem getPeerDirection_of_lines {media : MediaDescription} {d : RTCRtpTransceiverDirection}
    (h : ∀ e : RTCRtpTransceiverDirection, e ≠ .unspecified →
      media.attributesWithKey (toString e) = if e = d then [⟨toString e, none⟩] else []) :
    getPeerDirection media = d := by
  have hOnly : ∀ a ∈ media.attributes, RTCRtpTransceiverDirection.fromStr a.key ≠ .unspecified →
      RTCRtpTransceiverDirection.fromStr a.key = d := fun a ha hKnown => by
    have hMem : a ∈ media.attributesWithKey (toString (RTCRtpTransceiverDirection.fromStr a.key)) := by
      simp [MediaDescription.attributesWithKey, ha, RTCRtpTransceiverDirection.toString_fromStr hKnown]
    rw [h _ hKnown] at hMem
    split_ifs at hMem with hEq
    · exact hEq
    · cases hMem
  unfold getPeerDirection
  split
  · rename_i a hFind
    exact hOnly a (List.mem_of_find?_eq_some hFind) (by simpa using List.find?_some hFind)
  · rename_i hFind
    by_contra hNe
    have hLine : (⟨toString d, none⟩ : Attribute) ∈ media.attributesWithKey (toString d) := by
      rw [h d (fun hd => hNe hd.symm), if_pos rfl]
      exact List.mem_singleton_self _
    have hNone := List.find?_eq_none.mp hFind _ (List.mem_filter.mp hLine).1
    simp at hNone
    exact hNe hNone.symm

/-- The order a std `HashMap` visits its entries in. `HashMap::new` draws a random hasher
seed for every map, so the order is not determined by the entries: two maps with the same
entries, in one call or in two, may be visited differently. A call that builds maps takes
the order as an argument, one for the map built from each remote section, and all the
model knows of it is that it permutes the entries. It is not a hash function: two maps
built from the same remote section in one call are visited alike. -/
structure IterationOrder where
  visit : MediaDescription → List (String × String) → List (String × String)
  perm : ∀ media entries, (visit media entries).Perm entries

/-- Visiting a map in the order its keys were first inserted, one of the orders the code
may draw. -/
def IterationOrder.insertion : IterationOrder := ⟨fun _ entries => entries, fun _ _ => List.Perm.refl _⟩

/-- `HashMap::insert` on the entries of a map: a key already present keeps its place and
takes the new value; a new key comes last. -/
def ridInsert (rids : List (String × String)) (rid value : String) : List (String × String) :=
  if rids.any (·.1 = rid) then rids.map (fun p => if p.1 = rid then (rid, value) else p)
  else rids ++ [(rid, value)]

/-- `get_rids`: each valued `rid` attribute, keyed by its first space-separated token, the
map visited in the order `ridOrder` draws for it. -/
def getRids (ridOrder : IterationOrder) (media : MediaDescription) : List (String × String) :=
  ridOrder.visit media <| media.attributes.foldl (fun rids attr =>
    if attr.key = sdpAttributeRid then
      match attr.value with
      | some value => ridInsert rids ((value.splitOn " ").headD "") value
      | none => rids
    else rids) []

/-- The first space-separated token of the value of each valued `rid` attribute, in
order and with repeats: the rids a remote section lists. -/
def ridTokens (media : MediaDescription) : List String :=
  media.attributes.filterMap fun attr =>
    if attr.key = sdpAttributeRid then attr.value.map fun value => (value.splitOn " ").headD "" else none

/-- `HashMap::insert` adds a key only when it is new. -/
theorem ridInsert_keys (rids : List (String × String)) (rid value : String) :
    (ridInsert rids rid value).map (·.1) =
      if rid ∈ rids.map (·.1) then rids.map (·.1) else rids.map (·.1) ++ [rid] := by
  by_cases h : rid ∈ rids.map (·.1)
  · have hAny : rids.any (·.1 = rid) = true := by simpa using h
    simp only [ridInsert, hAny, if_true, h, List.map_map]
    exact List.map_congr_left fun p _ => by by_cases hp : p.1 = rid <;> simp [hp]
  · have hAny : rids.any (·.1 = rid) = false :=
      List.any_eq_false.mpr fun p hp hEq => h (List.mem_map.mpr ⟨p, hp, of_decide_eq_true hEq⟩)
    simp [ridInsert, hAny, h]

/-- An insert keeps the keys distinct, and the new keys are the old ones and the inserted
one. -/
theorem ridInsert_keys_nodup {rids : List (String × String)} (h : (rids.map (·.1)).Nodup) (rid value : String) :
    ((ridInsert rids rid value).map (·.1)).Nodup ∧
      ∀ x, x ∈ (ridInsert rids rid value).map (·.1) ↔ x ∈ rids.map (·.1) ∨ x = rid := by
  rw [ridInsert_keys]
  split_ifs with hMem
  · exact ⟨h, fun x => ⟨.inl, fun hx => hx.elim id (· ▸ hMem)⟩⟩
  · exact ⟨List.nodup_append.mpr ⟨h, List.nodup_singleton rid, by simpa using hMem⟩, by simp⟩

/-- One iteration of the `get_rids` loop. -/
private def ridStep (rids : List (String × String)) (attr : Attribute) : List (String × String) :=
  if attr.key = sdpAttributeRid then
    match attr.value with
    | some value => ridInsert rids ((value.splitOn " ").headD "") value
    | none => rids
  else rids

/-- The rid one attribute names, when it is a valued `rid` attribute. -/
private def ridToken (attr : Attribute) : Option String :=
  if attr.key = sdpAttributeRid then attr.value.map fun value => (value.splitOn " ").headD "" else none

/-- The rid loop of `get_rids` over a map with distinct keys: the keys stay distinct and
are the old ones and the new tokens. -/
private theorem ridLoop_keys (attrs : List Attribute) (rids : List (String × String))
    (h : (rids.map (·.1)).Nodup) :
    ((attrs.foldl ridStep rids).map (·.1)).Nodup ∧
      ∀ x, x ∈ (attrs.foldl ridStep rids).map (·.1) ↔ x ∈ rids.map (·.1) ∨ x ∈ attrs.filterMap ridToken := by
  induction attrs generalizing rids with
  | nil => exact ⟨h, by simp⟩
  | cons a rest ih =>
    rw [List.foldl_cons, List.filterMap_cons]
    by_cases hk : a.key = sdpAttributeRid
    · cases hv : a.value with
      | none =>
        rw [show ridStep rids a = rids by simp [ridStep, hk, hv],
          show ridToken a = none by simp [ridToken, hk, hv]]
        exact ih _ h
      | some v =>
        rw [show ridStep rids a = ridInsert rids ((v.splitOn " ").headD "") v by simp [ridStep, hk, hv],
          show ridToken a = some ((v.splitOn " ").headD "") by simp [ridToken, hk, hv]]
        obtain ⟨hNodup, hMem⟩ := ridInsert_keys_nodup h ((v.splitOn " ").headD "") v
        obtain ⟨ihNodup, ihMem⟩ := ih _ hNodup
        exact ⟨ihNodup, fun x => by rw [ihMem, hMem, List.mem_cons, or_assoc]⟩
    · rw [show ridStep rids a = rids by simp [ridStep, hk], show ridToken a = none by simp [ridToken, hk]]
      exact ih _ h

/-- The keys of the rid map are distinct, and they are exactly the rids the section lists,
whatever order the map is visited in. -/
theorem getRids_keys (ridOrder : IterationOrder) (media : MediaDescription) :
    ((getRids ridOrder media).map (·.1)).Nodup ∧
      ∀ x, x ∈ (getRids ridOrder media).map (·.1) ↔ x ∈ ridTokens media := by
  obtain ⟨hNodup, hMem⟩ := ridLoop_keys media.attributes [] List.nodup_nil
  have hPerm := (ridOrder.perm media (media.attributes.foldl ridStep [])).map (·.1)
  exact ⟨hPerm.nodup_iff.mpr hNodup, fun x => hPerm.mem_iff.trans ((hMem x).trans (by simp [ridTokens, ridToken]))⟩

/-- The marshaled host candidate of `c` for one ICE component. -/
def hostCandidate (c : SocketAddr) (component : UInt16) : String :=
  "1 " ++ toString component ++ " UDP 1 " ++ c.ip ++ " " ++ toString c.port ++ " typ host"

/-- `append_candidate_if_new`: nothing when any attribute already has the candidate's
text as its value, whatever its key. -/
def appendCandidateIfNew (c : SocketAddr) (component : UInt16) (m : MediaDescription) :
    MediaDescription :=
  if m.attributes.any (·.value = some (hostCandidate c component)) then m
  else m.withValueAttribute "candidate" (hostCandidate c component)

/-- The body of `add_candidate_to_media_descriptions`: the RTP then the RTCP host
candidate, and the end-of-candidates marker once gathering is complete. -/
def withHostCandidates (candidate : SocketAddr) (m : MediaDescription)
    (iceGatheringState : RTCIceGatheringState) : MediaDescription :=
  let m := appendCandidateIfNew candidate 2 (appendCandidateIfNew candidate 1 m)
  if iceGatheringState ≠ .complete then m
  else if m.attributes.any (·.key = "end-of-candidates") then m
  else m.withPropertyAttribute "end-of-candidates"

/-- Every return of the source is `Ok`. -/
def addCandidateToMediaDescriptions (candidate : SocketAddr) (m : MediaDescription)
    (iceGatheringState : RTCIceGatheringState) : Except Error MediaDescription :=
  .ok (withHostCandidates candidate m iceGatheringState)

theorem hostCandidate_one_ne_two (c : SocketAddr) : hostCandidate c 1 ≠ hostCandidate c 2 := by
  intro h
  have h3 := congrArg (fun x => x.data.take 3) h
  simp [hostCandidate, show toString (1 : UInt16) = "1" from rfl,
    show toString (2 : UInt16) = "2" from rfl] at h3

/-- The `a=candidate` line of the host candidate of `c` for one component. -/
def candidateAttribute (c : SocketAddr) (component : UInt16) : Attribute :=
  ⟨"candidate", some (hostCandidate c component)⟩

def endOfCandidatesAttribute : Attribute := ⟨"end-of-candidates", none⟩

/-- A section with neither candidates nor the end-of-candidates marker. -/
def CandidateFree (m : MediaDescription) : Prop :=
  m.attributesWithKey "candidate" = [] ∧ m.attributesWithKey "end-of-candidates" = []

/-- The section the local candidates went into: the marker once, each host candidate at
most once and no other candidate, and both host candidates when no attribute of another
key already has a candidate's text as value. -/
structure CarriesHostCandidates (c : SocketAddr) (m : MediaDescription) : Prop where
  endOfCandidates : m.attributesWithKey "end-of-candidates" = [endOfCandidatesAttribute]
  candidates_sublist :
    (m.attributesWithKey "candidate").Sublist [candidateAttribute c 1, candidateAttribute c 2]
  candidates_of_fresh : (∀ a ∈ m.attributes, a.key ≠ "candidate" →
      a.value ≠ some (hostCandidate c 1) ∧ a.value ≠ some (hostCandidate c 2)) →
    m.attributesWithKey "candidate" = [candidateAttribute c 1, candidateAttribute c 2]

@[simp] theorem appendCandidateIfNew_mediaName (c : SocketAddr) (k : UInt16) (m : MediaDescription) :
    (appendCandidateIfNew c k m).mediaName = m.mediaName := by
  unfold appendCandidateIfNew
  split <;> rfl

@[simp] theorem appendCandidateIfNew_connectionInformation (c : SocketAddr) (k : UInt16)
    (m : MediaDescription) : (appendCandidateIfNew c k m).connectionInformation = m.connectionInformation := by
  unfold appendCandidateIfNew
  split <;> rfl

theorem appendCandidateIfNew_attributes (c : SocketAddr) (k : UInt16) (m : MediaDescription) :
    (appendCandidateIfNew c k m).attributes = m.attributes ++
      if m.attributes.any (·.value = some (hostCandidate c k)) then []
      else [candidateAttribute c k] := by
  unfold appendCandidateIfNew
  split <;> simp [candidateAttribute]

/-- The two candidate appends add candidate lines only, at most the two host ones, and
both when no attribute already has either text as value. -/
theorem appendCandidates_attributes (c : SocketAddr) (m : MediaDescription) :
    ∃ added,
      (appendCandidateIfNew c 2 (appendCandidateIfNew c 1 m)).attributes = m.attributes ++ added ∧
      (∀ a ∈ added, a.key = "candidate") ∧
      added.Sublist [candidateAttribute c 1, candidateAttribute c 2] ∧
      ((∀ a ∈ m.attributes, a.value ≠ some (hostCandidate c 1) ∧ a.value ≠ some (hostCandidate c 2)) →
        added = [candidateAttribute c 1, candidateAttribute c 2]) := by
  simp only [appendCandidateIfNew_attributes, List.append_assoc]
  refine ⟨_, rfl, ?_, ?_, fun hNew => ?_⟩
  · split_ifs <;> simp [candidateAttribute]
  · split_ifs <;> simp
  · have h1 : (m.attributes.any (·.value = some (hostCandidate c 1))) = false := by
      simpa using fun a ha => (hNew a ha).1
    have h2 : ((m.attributes ++ [candidateAttribute c 1]).any
        (·.value = some (hostCandidate c 2))) = false := by
      simpa [candidateAttribute] using ⟨fun a ha => (hNew a ha).2, hostCandidate_one_ne_two c⟩
    simp only [h1, h2, if_false, Bool.false_eq_true]
    rfl

/-- Once gathering is complete, a candidate-free section gets exactly the host
candidates of `c` and one end-of-candidates marker, and keeps everything else. -/
theorem withHostCandidates_complete {c : SocketAddr} {m : MediaDescription}
    (hFree : CandidateFree m) :
    CarriesHostCandidates c (withHostCandidates c m .complete) ∧
      (withHostCandidates c m .complete).mediaName = m.mediaName ∧
      ∀ key, key ≠ "candidate" → key ≠ "end-of-candidates" →
        (withHostCandidates c m .complete).attributesWithKey key = m.attributesWithKey key := by
  obtain ⟨hCand, hEnd⟩ := hFree
  simp only [MediaDescription.attributesWithKey, List.filter_eq_nil_iff, decide_eq_true_eq] at hCand hEnd
  obtain ⟨added, hAdded, hKeys, hSub, hFresh⟩ := appendCandidates_attributes c m
  have hFilter : ∀ key, key ≠ "candidate" → added.filter (·.key = key) = [] := fun key hk =>
    List.filter_eq_nil_iff.mpr fun a ha he => hk (by simpa [hKeys a ha] using (of_decide_eq_true he).symm)
  have hNoEnd : ((appendCandidateIfNew c 2 (appendCandidateIfNew c 1 m)).attributes.any
      (·.key = "end-of-candidates")) = false := by
    simp only [hAdded, List.any_append, Bool.or_eq_false_iff, List.any_eq_false, decide_eq_true_eq]
    exact ⟨hEnd, fun a ha he => by simp [hKeys a ha] at he⟩
  simp only [withHostCandidates, ne_eq, not_true_eq_false, if_false, hNoEnd, Bool.false_eq_true]
  have hOwn : m.attributes.filter (·.key = "candidate") = [] :=
    List.filter_eq_nil_iff.mpr fun a ha he => hCand a ha (of_decide_eq_true he)
  have hCandidates : added.filter (·.key = "candidate") = added :=
    List.filter_eq_self.mpr fun a ha => by simp [hKeys a ha]
  refine ⟨⟨?_, ?_, fun hNew => ?_⟩, by simp, fun key hc he => ?_⟩
  · simp [MediaDescription.attributesWithKey, hAdded, endOfCandidatesAttribute,
      List.filter_eq_nil_iff.mpr (fun a ha h => hEnd a ha (of_decide_eq_true h)),
      hFilter "end-of-candidates" (by decide)]
  · simpa [MediaDescription.attributesWithKey, hAdded, hOwn, hCandidates] using hSub
  · have hAll := hFresh fun a ha => hNew a (by simp [hAdded, ha]) (hCand a ha)
    simp [MediaDescription.attributesWithKey, hAdded, hOwn, hAll, candidateAttribute]
  · simp [MediaDescription.attributesWithKey, hAdded, hFilter key hc, Ne.symm he]

/-- `append_candidate_if_new` leaves a section alone once some attribute has the
candidate's text as its value. -/
theorem appendCandidateIfNew_of_present {c : SocketAddr} {k : UInt16} {m : MediaDescription}
    (h : ∃ a ∈ m.attributes, a.value = some (hostCandidate c k)) : appendCandidateIfNew c k m = m := by
  simp [appendCandidateIfNew, h]

/-- After `append_candidate_if_new` some attribute has the candidate's text as value. -/
theorem appendCandidateIfNew_present (c : SocketAddr) (k : UInt16) (m : MediaDescription) :
    ∃ a ∈ (appendCandidateIfNew c k m).attributes, a.value = some (hostCandidate c k) := by
  by_cases h : ∃ a ∈ m.attributes, a.value = some (hostCandidate c k)
  · rwa [appendCandidateIfNew_of_present h]
  · exact ⟨candidateAttribute c k, by simp_all [appendCandidateIfNew_attributes], rfl⟩

/-- Once both host candidates are in and, when gathering is complete, the marker too,
the candidate step changes nothing. -/
theorem withHostCandidates_of_present {c : SocketAddr} {m : MediaDescription} {s : RTCIceGatheringState}
    (h1 : ∃ a ∈ m.attributes, a.value = some (hostCandidate c 1))
    (h2 : ∃ a ∈ m.attributes, a.value = some (hostCandidate c 2))
    (hEnd : s = .complete → ∃ a ∈ m.attributes, a.key = "end-of-candidates") :
    withHostCandidates c m s = m := by
  unfold withHostCandidates
  rw [appendCandidateIfNew_of_present h1, appendCandidateIfNew_of_present h2]
  by_cases hs : s = .complete
  · simp [hs, hEnd hs]
  · simp [hs]

/-- The candidate step only appends: the `m=` and `c=` lines stay, the old attributes are
a prefix of the new ones, and at most three lines are added. -/
theorem withHostCandidates_extends (c : SocketAddr) (m : MediaDescription) (s : RTCIceGatheringState) :
    (withHostCandidates c m s).mediaName = m.mediaName ∧
      (withHostCandidates c m s).connectionInformation = m.connectionInformation ∧
      m.attributes <+: (withHostCandidates c m s).attributes ∧
      (withHostCandidates c m s).attributes.length ≤ m.attributes.length + 3 := by
  obtain ⟨added, hAdded, -, hSub, -⟩ := appendCandidates_attributes c m
  have hLen : added.length ≤ 2 := hSub.length_le
  unfold withHostCandidates
  dsimp only
  split_ifs <;> simp [hAdded, List.prefix_append, MediaDescription.withPropertyAttribute] <;> omega

/-- The candidate step leaves both host candidates of `c` in the section and, once
gathering is complete, the end-of-candidates marker. -/
theorem withHostCandidates_present (c : SocketAddr) (m : MediaDescription) (s : RTCIceGatheringState) :
    (∃ a ∈ (withHostCandidates c m s).attributes, a.value = some (hostCandidate c 1)) ∧
      (∃ a ∈ (withHostCandidates c m s).attributes, a.value = some (hostCandidate c 2)) ∧
      (s = .complete → ∃ a ∈ (withHostCandidates c m s).attributes, a.key = "end-of-candidates") := by
  have hKeep : ∀ k (m : MediaDescription) a, a ∈ m.attributes →
      a ∈ (appendCandidateIfNew c k m).attributes := fun k m a ha => by
    rw [appendCandidateIfNew_attributes]
    exact List.mem_append_left _ ha
  obtain ⟨a1, ha1, hv1⟩ := appendCandidateIfNew_present c 1 m
  obtain ⟨a2, ha2, hv2⟩ := appendCandidateIfNew_present c 2 (appendCandidateIfNew c 1 m)
  have h1 := hKeep 2 _ a1 ha1
  unfold withHostCandidates
  dsimp only
  split_ifs with hs hEnd
  · exact ⟨⟨a1, h1, hv1⟩, ⟨a2, ha2, hv2⟩, fun h => absurd h hs⟩
  · exact ⟨⟨a1, h1, hv1⟩, ⟨a2, ha2, hv2⟩, fun _ => by simpa using hEnd⟩
  · exact ⟨⟨a1, by simp [h1], hv1⟩, ⟨a2, by simp [ha2], hv2⟩,
      fun _ => ⟨⟨"end-of-candidates", none⟩, by simp, rfl⟩⟩

/-- `add_candidate_to_media_descriptions` always succeeds. It keeps the section's `m=`
and `c=` lines and its attributes in order, appending at most three; it leaves both host
candidates of `c` in the section and, once gathering is complete, the end-of-candidates
marker; and a second call with the same address and state returns the section unchanged. -/
theorem addCandidateToMediaDescriptions_idempotent (c : SocketAddr) (m : MediaDescription)
    (s : RTCIceGatheringState) :
    ∃ m', addCandidateToMediaDescriptions c m s = .ok m' ∧
      m'.mediaName = m.mediaName ∧ m'.connectionInformation = m.connectionInformation ∧
      m.attributes <+: m'.attributes ∧ m'.attributes.length ≤ m.attributes.length + 3 ∧
      (∃ a ∈ m'.attributes, a.value = some (hostCandidate c 1)) ∧
      (∃ a ∈ m'.attributes, a.value = some (hostCandidate c 2)) ∧
      (s = .complete → ∃ a ∈ m'.attributes, a.key = "end-of-candidates") ∧
      addCandidateToMediaDescriptions c m' s = .ok m' := by
  obtain ⟨h1, h2, hEnd⟩ := withHostCandidates_present c m s
  obtain ⟨hName, hConnection, hPrefix, hLength⟩ := withHostCandidates_extends c m s
  exact ⟨_, rfl, hName, hConnection, hPrefix, hLength, h1, h2, hEnd,
    congrArg Except.ok (withHostCandidates_of_present h1 h2 hEnd)⟩

/-- A section that already holds the RTP host candidate under another key gets only the
RTCP one and the marker. -/
example :
    addCandidateToMediaDescriptions ⟨"10.0.0.1", 5000⟩
      ⟨⟨"audio", ⟨9, none⟩, [], []⟩, none, [⟨"x", some "1 1 UDP 1 10.0.0.1 5000 typ host"⟩]⟩ .complete =
      .ok ⟨⟨"audio", ⟨9, none⟩, [], []⟩, none, [⟨"x", some "1 1 UDP 1 10.0.0.1 5000 typ host"⟩,
        ⟨"candidate", some "1 2 UDP 1 10.0.0.1 5000 typ host"⟩, ⟨"end-of-candidates", none⟩]⟩ := rfl

end Sfu
