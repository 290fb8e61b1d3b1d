import Mathlib.Data.List.Forall2
import Mathlib.Data.String.Basic
import Sfu.Description.Section

/-! `populate_sdp`: the section loop that appends one media description per section and
collects the BUNDLE group, then the session-level fingerprints, `ice-lite` and `group`.
The loop's step lemma says what one section adds; the run lemma lifts it to the list. -/
namespace Sfu

open Sdp

/-- `append_bundle`: one more mid in the group value. -/
def appendBundle (midValue value : String) : String := value ++ " " ++ midValue

/-- One iteration of the section loop, at index `i`. -/
def populateSection (mediaDtlsFingerprints : List RTCDtlsFingerprint) (candidate : SocketAddr)
    (iceParams : RTCIceParameters) (connectionRole : ConnectionRole) (i : Nat)
    (acc : SessionDescription × String) (m : MediaSection) : Except Error (SessionDescription × String) :=
  if m.data && m.transceiver.isSome then .error (.other "ErrSDPMediaSectionMediaDataChanInvalid")
  else do
    let shouldAddCandidates := i == 0
    let (d, shouldAddId) ← if m.data then do
        let d ← addDataMediaSection acc.1 mediaDtlsFingerprints candidate
          ⟨shouldAddCandidates, m.id, iceParams, connectionRole, .complete⟩
        pure (d, true)
      else
        addTransceiverSdp acc.1 mediaDtlsFingerprints iceParams candidate m
          ⟨shouldAddCandidates, m.id, connectionRole, .complete, m.offeredDirection⟩
    pure (d, if shouldAddId then appendBundle m.id acc.2 else acc.2)

/-- The section loop from index `i`; the first error ends it. -/
def populateSections (mediaDtlsFingerprints : List RTCDtlsFingerprint) (candidate : SocketAddr)
    (iceParams : RTCIceParameters) (connectionRole : ConnectionRole) :
    Nat → SessionDescription × String → List MediaSection → Except Error (SessionDescription × String)
  | _, acc, [] => .ok acc
  | i, acc, m :: rest => do
    let acc ← populateSection mediaDtlsFingerprints candidate iceParams connectionRole i acc m
    populateSections mediaDtlsFingerprints candidate iceParams connectionRole (i + 1) acc rest

def populateSdp (d : SessionDescription) (dtlsFingerprints : List RTCDtlsFingerprint)
    (candidate : SocketAddr) (iceParams : RTCIceParameters) (connectionRole : ConnectionRole)
    (mediaSections : List MediaSection) (mediaDescriptionFingerprint : Bool) :
    Except Error SessionDescription := do
  let mediaDtlsFingerprints := if mediaDescriptionFingerprint then dtlsFingerprints else []
  let (d, bundleValue) ← populateSections mediaDtlsFingerprints candidate iceParams connectionRole 0
    (d, "BUNDLE") mediaSections
  let d := if mediaDescriptionFingerprint then d
    else dtlsFingerprints.foldl (fun d f => d.withFingerprint f.algorithm f.value.toUpper) d
  let d := d.withPropertyAttribute attrKeyIcelite
  pure (d.withValueAttribute attrKeyGroup bundleValue)

/-- The group value the spec describes: `BUNDLE`, then ` <mid>` per accepted section. -/
def bundleValue (mediaSections : List MediaSection) : String :=
  "BUNDLE" ++ String.join ((mediaSections.filter (·.accepted)).map (" " ++ ·.id))

/-- Where the local candidates may go: all of them into section 0 when it is accepted,
none anywhere else. -/
def CandidatePlacement (c : SocketAddr) (i : Nat) (s : MediaSection) (md : MediaDescription) : Prop :=
  if i = 0 ∧ s.accepted then CarriesHostCandidates c md else CandidateFree md

/-- The media description one iteration appends for a section it gets past: the data
section, or for a transceiver the rejection block when it has no codec and the full
section otherwise; all but the rejection block go through the candidate step of index
`i`. -/
def sectionMedia (mediaDtlsFingerprints : List RTCDtlsFingerprint) (candidate : SocketAddr)
    (iceParams : RTCIceParameters) (connectionRole : ConnectionRole) (i : Nat) (m : MediaSection) :
    MediaDescription :=
  match m.transceiver with
  | none => candidateStep candidate (i == 0) .complete
      (dataMediaDescription mediaDtlsFingerprints ⟨i == 0, m.id, iceParams, connectionRole, .complete⟩)
  | some ref =>
    if ref.transceiver.codecs.isEmpty then rejectedMediaDescription ref.transceiver.kind
    else candidateStep candidate (i == 0) .complete (transceiverMedia mediaDtlsFingerprints iceParams m
      ⟨i == 0, m.id, connectionRole, .complete, m.offeredDirection⟩ ref.transceiver)

section Loop

variable {fps : List RTCDtlsFingerprint} {c : SocketAddr} {ice : RTCIceParameters}
  {role : ConnectionRole}

private theorem candidateStep_placement {i : Nat} {s : MediaSection} {md : MediaDescription}
    (hs : s.accepted = true) (hFree : CandidateFree md) :
    CandidatePlacement c i s (candidateStep c (i == 0) .complete md) := by
  unfold CandidatePlacement candidateStep
  by_cases hi : i = 0
  · simp [hi, hs, (withHostCandidates_complete hFree).1]
  · simp [hi, hFree]

/-- An accepted section's description, once its candidates are in. -/
private theorem builtFrom_candidateStep {i : Nat} {s : MediaSection} {md : MediaDescription}
    (hs : s.accepted = true) (hFree : CandidateFree md)
    (hApp : md.mediaName.media = mediaSectionApplication ↔ s.data = true)
    (hPort : md.mediaName.port.value = 9)
    (hMid : md.attributesWithKey attrKeyMid = [⟨attrKeyMid, some s.id⟩]) :
    BuiltFrom s (candidateStep c (i == 0) .complete md) := by
  obtain ⟨hName, hKeys⟩ := @candidateStep_keeps c (i == 0) md hFree
  exact ⟨hName ▸ hApp, by simp [hName, hPort, hs], by rw [hKeys _ (by decide) (by decide), hMid, if_pos hs]⟩

/-- A rejected section's description: not an application section, port 0, no mid and
no candidate. -/
private theorem rejected_builtFrom {i : Nat} {s : MediaSection} (hData : s.data = false)
    (hs : s.accepted = false) (kind : RTPCodecType) :
    BuiltFrom s (rejectedMediaDescription kind) ∧
      CandidatePlacement c i s (rejectedMediaDescription kind) := by
  refine ⟨⟨?_, by simp [rejectedMediaDescription, hs], ?_⟩, ?_⟩
  · simpa [rejectedMediaDescription, hData] using toString_ne_application kind
  all_goals simp [hs, CandidatePlacement, CandidateFree, rejectedMediaDescription,
    MediaDescription.attributesWithKey]

/-- One section the loop gets past is a data section exactly when it has no transceiver;
it appends `sectionMedia`, and adds its mid to the group when it is accepted. -/
theorem populateSection_eq_ok {i : Nat} {acc acc' : SessionDescription × String} {m : MediaSection}
    (h : populateSection fps c ice role i acc m = .ok acc') :
    (m.data = true ↔ m.transceiver = none) ∧
      acc' = (acc.1.withMedia (sectionMedia fps c ice role i m),
        if m.accepted then appendBundle m.id acc.2 else acc.2) := by
  unfold populateSection at h
  cases hT : m.transceiver with
  | none =>
    cases hData : m.data
    · simp [hT, hData, addTransceiverSdp_eq, bind, Except.bind] at h
    · simp only [hT, hData, Option.isSome_none, Bool.and_false, Bool.false_eq_true, if_false, if_true,
        addDataMediaSection_eq, bind, Except.bind, pure, Except.pure, Except.ok.injEq] at h
      exact ⟨by simp, by simp [← h, sectionMedia, hT, MediaSection.accepted, hData]⟩
  | some r =>
    cases hData : m.data
    · simp only [hT, hData, Bool.false_and, Bool.false_eq_true, if_false, addTransceiverSdp_eq] at h
      by_cases hCodecs : r.transceiver.codecs.isEmpty
      · by_cases hTrack : r.transceiver.sender.track.isSome
        · simp [hCodecs, hTrack, bind, Except.bind] at h
        · simp only [hCodecs, hTrack, if_true, Bool.false_eq_true, if_false, bind, Except.bind, pure,
            Except.pure, Except.ok.injEq] at h
          exact ⟨by simp, by simp [← h, sectionMedia, hT, hCodecs, MediaSection.accepted, hData]⟩
      · simp only [hCodecs, Bool.false_eq_true, if_false, bind, Except.bind, pure, Except.pure,
          Except.ok.injEq] at h
        exact ⟨by simp, by simp [← h, sectionMedia, hT, hCodecs, MediaSection.accepted, hData]⟩
    · simp [hT, hData] at h

/-- What a section gets past the loop with is built from it, with the candidates placed by
its index. -/
theorem sectionMedia_builtFrom {i : Nat} {m : MediaSection} (hWell : m.data = true ↔ m.transceiver = none) :
    BuiltFrom m (sectionMedia fps c ice role i m) ∧ CandidatePlacement c i m (sectionMedia fps c ice role i m) := by
  cases hT : m.transceiver with
  | none =>
    have hData : m.data = true := hWell.mpr hT
    have hOk : m.accepted = true := by simp [MediaSection.accepted, hData]
    have hFree := dataMediaDescription_candidateFree fps ⟨i == 0, m.id, ice, role, .complete⟩
    rw [sectionMedia, hT]
    exact ⟨builtFrom_candidateStep hOk hFree (by simp [hData]) (by simp) (dataMediaDescription_mid _ _),
      candidateStep_placement hOk hFree⟩
  | some ref =>
    have hData : m.data = false := by simpa [hT] using hWell
    rw [sectionMedia, hT]
    dsimp only
    split
    · rename_i hCodecs
      exact rejected_builtFrom hData (by simp [MediaSection.accepted, hData, hT, hCodecs]) _
    · rename_i hCodecs
      have hOk : m.accepted = true := by simp [MediaSection.accepted, hData, hT, hCodecs]
      have hFree := transceiverMedia_candidateFree fps ice m
        ⟨i == 0, m.id, role, .complete, m.offeredDirection⟩ ref.transceiver
      obtain ⟨hMedia, hPort⟩ := transceiverMedia_mediaName fps ice m
        ⟨i == 0, m.id, role, .complete, m.offeredDirection⟩ ref.transceiver
      refine ⟨builtFrom_candidateStep hOk hFree ?_ hPort (transceiverMedia_mid _ _ _ _ _),
        candidateStep_placement hOk hFree⟩
      simpa [hMedia, hData] using toString_ne_application ref.transceiver.kind

/-- One section appends one media description built from it, with the candidates placed
by its index, and adds its mid to the group exactly when it is accepted. -/
theorem populateSection_ok {i : Nat} {acc acc' : SessionDescription × String} {m : MediaSection}
    (h : populateSection fps c ice role i acc m = .ok acc') :
    ∃ md, acc'.1 = acc.1.withMedia md ∧
      acc'.2 = (if m.accepted then appendBundle m.id acc.2 else acc.2) ∧
      BuiltFrom m md ∧ CandidatePlacement c i m md := by
  obtain ⟨hWell, rfl⟩ := populateSection_eq_ok h
  exact ⟨_, rfl, rfl, sectionMedia_builtFrom hWell⟩

private theorem join_cons (a : String) (l : List String) : String.join (a :: l) = a ++ String.join l :=
  String.ext (by simp [String.data_join])

/-- The loop from index `i` appends one description per section, in order, and the mids
of the accepted ones to the group value. -/
theorem populateSections_ok {i : Nat} {acc acc' : SessionDescription × String} {S : List MediaSection}
    (h : populateSections fps c ice role i acc S = .ok acc') :
    ∃ mds, acc'.1.mediaDescriptions = acc.1.mediaDescriptions ++ mds ∧
      acc'.1.attributes = acc.1.attributes ∧ acc'.1.origin = acc.1.origin ∧
      acc'.2 = acc.2 ++ String.join ((S.filter (·.accepted)).map (" " ++ ·.id)) ∧
      List.Forall₂ BuiltFrom S mds ∧
      List.Forall₂ (fun p md => CandidatePlacement c p.1 p.2 md) (S.enumFrom i) mds := by
  induction S generalizing i acc with
  | nil =>
    cases h
    exact ⟨[], by simp, rfl, rfl, by simp [String.join], .nil, .nil⟩
  | cons m rest ih =>
    simp only [populateSections, bind, Except.bind] at h
    split at h
    · cases h
    · rename_i acc₁ hStep
      obtain ⟨md, hD, hB, hBuilt, hPlace⟩ := populateSection_ok hStep
      obtain ⟨mds, hM, hA, hO, hV, hF, hP⟩ := ih h
      refine ⟨md :: mds, by simp [hM, hD], by simp [hA, hD], by simp [hO, hD], ?_, .cons hBuilt hF,
        .cons hPlace hP⟩
      rw [hV, hB]
      by_cases hm : m.accepted <;> simp [hm, appendBundle, join_cons, String.append_assoc]

/-- The loop from index `i` appends `sectionMedia` of each section at its index, in order,
on sections that are data sections exactly when they have no transceiver. -/
theorem populateSections_media {i : Nat} {acc acc' : SessionDescription × String} {S : List MediaSection}
    (h : populateSections fps c ice role i acc S = .ok acc') :
    (∀ m ∈ S, m.data = true ↔ m.transceiver = none) ∧
      acc'.1.mediaDescriptions =
        acc.1.mediaDescriptions ++ (S.enumFrom i).map fun p => sectionMedia fps c ice role p.1 p.2 := by
  induction S generalizing i acc with
  | nil =>
    cases h
    simp
  | cons m rest ih =>
    simp only [populateSections, bind, Except.bind] at h
    split at h
    · cases h
    · rename_i acc₁ hStep
      obtain ⟨hWell, rfl⟩ := populateSection_eq_ok hStep
      obtain ⟨ihWell, ihMedia⟩ := ih h
      exact ⟨List.forall_mem_cons.mpr ⟨hWell, ihWell⟩, by simp [ihMedia]⟩

private theorem foldl_withFingerprint (fps : List RTCDtlsFingerprint) (d : SessionDescription) :
    (fps.foldl (fun d f => d.withFingerprint f.algorithm f.value.toUpper) d).attributes =
      d.attributes ++ fps.map (fun f => ⟨"fingerprint", some (f.algorithm ++ " " ++ f.value.toUpper)⟩) ∧
    (fps.foldl (fun d f => d.withFingerprint f.algorithm f.value.toUpper) d).mediaDescriptions =
      d.mediaDescriptions ∧
    (fps.foldl (fun d f => d.withFingerprint f.algorithm f.value.toUpper) d).origin = d.origin := by
  induction fps generalizing d with
  | nil => simp
  | cons f fs ih => simp [(ih _).1, (ih _).2.1, (ih _).2.2]

/-- The fingerprint lines `populate_sdp` puts at session level. -/
def sessionFingerprints (dtlsFingerprints : List RTCDtlsFingerprint) (mediaDescriptionFingerprint : Bool) :
    List Attribute :=
  if mediaDescriptionFingerprint then []
  else dtlsFingerprints.map (fun f => ⟨"fingerprint", some (f.algorithm ++ " " ++ f.value.toUpper)⟩)

/-- What a successful `populate_sdp` adds: one description per section, built from it,
with the candidates placed by index; then session fingerprints, `ice-lite` and the group. -/
theorem populateSdp_ok {d d' : SessionDescription} {S : List MediaSection} {mdf : Bool}
    (h : populateSdp d fps c ice role S mdf = .ok d') :
    ∃ mds, d'.mediaDescriptions = d.mediaDescriptions ++ mds ∧ List.Forall₂ BuiltFrom S mds ∧
      List.Forall₂ (fun p md => CandidatePlacement c p.1 p.2 md) S.enum mds ∧
      d'.attributes = d.attributes ++ sessionFingerprints fps mdf ++
        [⟨attrKeyIcelite, none⟩, ⟨attrKeyGroup, some (bundleValue S)⟩] := by
  simp only [populateSdp, bind, Except.bind] at h
  split at h
  · cases h
  · rename_i acc hLoop
    obtain ⟨mds, hM, hA, -, hV, hF, hP⟩ := populateSections_ok hLoop
    simp only [pure, Except.pure, Except.ok.injEq] at h
    subst h
    refine ⟨mds, ?_, hF, hP, ?_⟩ <;> cases mdf <;>
      simp [hM, hA, hV, bundleValue, sessionFingerprints, (foldl_withFingerprint _ _).1,
        (foldl_withFingerprint _ _).2.1]

/-- `populate_sdp` keeps the description's `o=` line. -/
theorem populateSdp_origin {d d' : SessionDescription} {S : List MediaSection} {mdf : Bool}
    (h : populateSdp d fps c ice role S mdf = .ok d') : d'.origin = d.origin := by
  simp only [populateSdp, bind, Except.bind] at h
  split at h
  · cases h
  · rename_i acc hLoop
    obtain ⟨-, -, -, hO, -⟩ := populateSections_ok hLoop
    simp only [pure, Except.pure, Except.ok.injEq] at h
    subst h
    cases mdf <;> simp [hO, (foldl_withFingerprint _ _).2.2]

/-- `populate_sdp` appends `sectionMedia` of each section at its index, with the
fingerprints when they go into the sections and none otherwise. -/
theorem populateSdp_media {d d' : SessionDescription} {S : List MediaSection} {mdf : Bool}
    (h : populateSdp d fps c ice role S mdf = .ok d') :
    d'.mediaDescriptions =
      d.mediaDescriptions ++ S.enum.map fun p => sectionMedia (if mdf then fps else []) c ice role p.1 p.2 := by
  simp only [populateSdp, bind, Except.bind] at h
  split at h
  · cases h
  · rename_i acc hLoop
    obtain ⟨-, hMedia⟩ := populateSections_media hLoop
    simp only [pure, Except.pure, Except.ok.injEq] at h
    subst h
    cases mdf <;> simp [hMedia, List.enum, (foldl_withFingerprint _ _).2.1]

/-- A section's description carries the fingerprints it is given, in order, unless it is
the rejection block, which carries none. -/
theorem sectionMedia_fingerprints (dtlsFingerprints : List RTCDtlsFingerprint) (i : Nat) (m : MediaSection) :
    (sectionMedia dtlsFingerprints c ice role i m).attributesWithKey "fingerprint" =
      if (sectionMedia dtlsFingerprints c ice role i m).mediaName.port.value = 0 then []
      else dtlsFingerprints.map fingerprintAttribute := by
  unfold sectionMedia
  split
  · obtain ⟨hName, hKeys⟩ := candidateStep_keeps (c := c) (b := i == 0)
      (dataMediaDescription_candidateFree dtlsFingerprints ⟨i == 0, m.id, ice, role, .complete⟩)
    rw [hKeys _ (by decide) (by decide), hName, dataMediaDescription_fingerprints]
    simp
  · rename_i ref _
    split
    · simp [rejectedMediaDescription, MediaDescription.attributesWithKey]
    · have hFree := transceiverMedia_candidateFree dtlsFingerprints ice m
        ⟨i == 0, m.id, role, .complete, m.offeredDirection⟩ ref.transceiver
      obtain ⟨hName, hKeys⟩ := candidateStep_keeps (c := c) (b := i == 0) hFree
      rw [hKeys _ (by decide) (by decide), hName, transceiverMedia_fingerprints,
        (transceiverMedia_mediaName _ _ _ _ _).2]
      simp

/-- An accepted transceiver section's description carries one `a=rid:<id> recv` per entry
of the section's rid map and, when there is any, one `a=simulcast` listing the same ids in
the same order; nothing else under either key. -/
theorem sectionMedia_rids (dtlsFingerprints : List RTCDtlsFingerprint) (i : Nat) {m : MediaSection}
    {ref : TransceiverRef} (hT : m.transceiver = some ref) (hCodecs : ref.transceiver.codecs ≠ []) :
    (sectionMedia dtlsFingerprints c ice role i m).attributesWithKey sdpAttributeRid =
        m.ridMap.map (fun rid => ⟨sdpAttributeRid, some (rid.1 ++ " recv")⟩) ∧
      (sectionMedia dtlsFingerprints c ice role i m).attributesWithKey "simulcast" =
        if m.ridMap = [] then [] else [⟨"simulcast", some ("recv " ++ ";".intercalate (m.ridMap.map (·.1)))⟩] := by
  have hFree := transceiverMedia_candidateFree dtlsFingerprints ice m
    ⟨i == 0, m.id, role, .complete, m.offeredDirection⟩ ref.transceiver
  obtain ⟨-, hKeys⟩ := candidateStep_keeps (c := c) (b := i == 0) hFree
  have hFull : ref.transceiver.codecs.isEmpty = false := by simpa using hCodecs
  simp only [sectionMedia, hT, hFull, Bool.false_eq_true, if_false]
  rw [hKeys _ (by decide) (by decide), hKeys _ (by decide) (by decide)]
  exact transceiverMedia_rids _ _ _ _ _

/-- Starting from a description without fingerprint lines at session level, and for the
media descriptions `populate_sdp` appends: with the fingerprints placed per section, each
appended description carries exactly the fingerprints in order, the rejected ones none,
and the session level none; otherwise no appended description carries one and the
session level carries exactly the fingerprints, in order. -/
theorem populateSdp_fingerprints_placed {d d' : SessionDescription} {S : List MediaSection} {mdf : Bool}
    (h : populateSdp d fps c ice role S mdf = .ok d') (hNone : ∀ a ∈ d.attributes, a.key ≠ "fingerprint") :
    ∃ mds, d'.mediaDescriptions = d.mediaDescriptions ++ mds ∧ mds.length = S.length ∧
      (mdf = true →
        (∀ md ∈ mds, md.attributesWithKey "fingerprint" =
          if md.mediaName.port.value = 0 then [] else fps.map fingerprintAttribute) ∧
        d'.attributes.filter (·.key = "fingerprint") = []) ∧
      (mdf = false →
        (∀ md ∈ mds, md.attributesWithKey "fingerprint" = []) ∧
        d'.attributes.filter (·.key = "fingerprint") = fps.map fingerprintAttribute) := by
  obtain ⟨-, -, -, -, hA⟩ := populateSdp_ok h
  have hOwn : d.attributes.filter (·.key = "fingerprint") = [] :=
    List.filter_eq_nil_iff.mpr fun a ha h => hNone a ha (of_decide_eq_true h)
  refine ⟨_, populateSdp_media h, by simp, fun hm => ⟨?_, ?_⟩, fun hm => ⟨?_, ?_⟩⟩ <;> subst hm
  · intro md hmd
    obtain ⟨⟨i, m⟩, -, rfl⟩ := List.mem_map.mp hmd
    simpa using sectionMedia_fingerprints fps i m
  · simp [hA, hOwn, sessionFingerprints, attrKeyGroup, attrKeyIcelite]
  · intro md hmd
    obtain ⟨⟨i, m⟩, -, rfl⟩ := List.mem_map.mp hmd
    simpa using sectionMedia_fingerprints [] i m
  · simp [hA, hOwn, sessionFingerprints, attrKeyGroup, attrKeyIcelite, fingerprintAttribute, List.filter_map,
      Function.comp_def]

/-- A data section and then a rejected transceiver section, the fingerprint placed per
section: the data section carries it, the rejected one does not. -/
theorem populateSdp_fingerprints_data_then_rejected :
    (∀ a ∈ (⟨⟨1, 1⟩, [], []⟩ : SessionDescription).attributes, a.key ≠ "fingerprint") ∧
    ∃ d', populateSdp ⟨⟨1, 1⟩, [], []⟩ [⟨"sha-256", "ab:cd"⟩] ⟨"10.0.0.1", 5000⟩ ⟨"u", "p"⟩ .passive
        [{ id := "0", data := true },
          { id := "1", transceiver := some ⟨0, ⟨"1", ⟨none, 0, none, [], false⟩, .sendrecv, [], .audio⟩⟩ }]
        true = .ok d' ∧
      ∃ mds, d'.mediaDescriptions = (⟨⟨1, 1⟩, [], []⟩ : SessionDescription).mediaDescriptions ++ mds ∧
        mds.length = ([{ id := "0", data := true },
            { id := "1", transceiver := some ⟨0, ⟨"1", ⟨none, 0, none, [], false⟩, .sendrecv, [], .audio⟩⟩ }] :
          List MediaSection).length ∧
        (true = true →
          (∀ md ∈ mds, md.attributesWithKey "fingerprint" =
            if md.mediaName.port.value = 0 then [] else [⟨"sha-256", "ab:cd"⟩].map fingerprintAttribute) ∧
          d'.attributes.filter (·.key = "fingerprint") = []) ∧
        (true = false →
          (∀ md ∈ mds, md.attributesWithKey "fingerprint" = []) ∧
          d'.attributes.filter (·.key = "fingerprint") = [⟨"sha-256", "ab:cd"⟩].map fingerprintAttribute) :=
  ⟨by simp, Exists.imp (fun _ h => ⟨h, populateSdp_fingerprints_placed h (by simp)⟩) ⟨_, rfl⟩⟩

/-- A description that already holds an accepted audio section, no fingerprint anywhere:
with the fingerprints asked for per section and no section to add, `populate_sdp`
succeeds, and that section, on port 9, carries no fingerprint. -/
theorem populateSdp_kept_section_no_fingerprint :
    (populateSdp ⟨⟨1, 1⟩, [], [⟨⟨"audio", ⟨9, none⟩, ["UDP", "TLS", "RTP", "SAVPF"], ["111"]⟩, none, []⟩]⟩
      [⟨"sha-256", "ab:cd"⟩] ⟨"10.0.0.1", 5000⟩ ⟨"u", "p"⟩ .passive [] true).map
      (fun d' => (d'.attributes.filter (·.key = "fingerprint"),
        d'.mediaDescriptions.map fun md => (md.mediaName.port.value, md.attributesWithKey "fingerprint"))) =
      .ok ([], [(9, [])]) := rfl

/-- The mids carried by descriptions built from `S` are those of its accepted sections. -/
theorem mids_of_builtFrom {S : List MediaSection} {mds : List MediaDescription}
    (h : List.Forall₂ BuiltFrom S mds) :
    mds.flatMap (·.attributesWithKey attrKeyMid) =
      (S.filter (·.accepted)).map (fun s => ⟨attrKeyMid, some s.id⟩) := by
  induction h with
  | nil => rfl
  | @cons s md _ _ hb _ ih => by_cases hs : s.accepted <;> simp [hb.mid, hs, ih]

/-- On a description without a group attribute, `populate_sdp` leaves exactly one, the
BUNDLE of the accepted sections. -/
theorem populateSdp_group {d d' : SessionDescription} {S : List MediaSection} {mdf : Bool}
    (h : populateSdp d fps c ice role S mdf = .ok d') (hGroup : ∀ a ∈ d.attributes, a.key ≠ attrKeyGroup) :
    d'.attributes.filter (·.key = attrKeyGroup) = [⟨attrKeyGroup, some (bundleValue S)⟩] := by
  obtain ⟨-, -, -, -, hA⟩ := populateSdp_ok h
  have hOwn : d.attributes.filter (·.key = "group") = [] :=
    List.filter_eq_nil_iff.mpr fun a ha h => hGroup a ha (of_decide_eq_true h)
  cases mdf <;> simp [hA, hOwn, sessionFingerprints, attrKeyGroup, attrKeyIcelite, List.filter_map,
    Function.comp_def]

/-- Sections past index 0 get no candidate. -/
theorem candidateFree_of_placement {S : List MediaSection} {mds : List MediaDescription} {i : Nat}
    (hi : 0 < i) (h : List.Forall₂ (fun p md => CandidatePlacement c p.1 p.2 md) (S.enumFrom i) mds) :
    ∀ md ∈ mds, CandidateFree md := by
  induction S generalizing i mds with
  | nil => cases h; simp
  | cons s rest ih =>
    cases h with
    | cons hHead hRest =>
      intro md hmd
      rcases List.mem_cons.mp hmd with rfl | hmd
      · simpa [CandidatePlacement, Nat.pos_iff_ne_zero.mp hi] using hHead
      · exact ih (Nat.succ_pos i) hRest md hmd

/-- For a description with no media yet, `populate_sdp` builds one media description per
section, the `i`-th from the `i`-th section; one `a=group` whose value lists, in order, the
mids of the accepted sections; and those mids are exactly the `a=mid` lines of the media
descriptions, a rejected one carrying none. -/
theorem populateSdp_bundle_matches_mids {d d' : SessionDescription} {S : List MediaSection}
    {mdf : Bool} (h : populateSdp d fps c ice role S mdf = .ok d') (hMedia : d.mediaDescriptions = [])
    (hGroup : ∀ a ∈ d.attributes, a.key ≠ attrKeyGroup) :
    List.Forall₂ BuiltFrom S d'.mediaDescriptions ∧
      d'.attributes.filter (·.key = attrKeyGroup) = [⟨attrKeyGroup, some (bundleValue S)⟩] ∧
      d'.mediaDescriptions.flatMap (·.attributesWithKey attrKeyMid) =
        (S.filter (·.accepted)).map (fun s => ⟨attrKeyMid, some s.id⟩) := by
  obtain ⟨mds, hM, hF, -, -⟩ := populateSdp_ok h
  rw [hMedia, List.nil_append] at hM
  rw [hM]
  exact ⟨hF, populateSdp_group h hGroup, mids_of_builtFrom hF⟩

/-- An accepted audio section and a data section: BUNDLE "0 1", mids "0" and "1". -/
theorem populateSdp_bundle_audio_then_data :
    (⟨⟨1, 1⟩, [], []⟩ : SessionDescription).mediaDescriptions = [] ∧
    (∀ a ∈ (⟨⟨1, 1⟩, [], []⟩ : SessionDescription).attributes, a.key ≠ attrKeyGroup) ∧
    ∃ d', populateSdp ⟨⟨1, 1⟩, [], []⟩ [] ⟨"10.0.0.1", 5000⟩ ⟨"u", "p"⟩ .passive
        [{ id := "0", transceiver := some ⟨0, ⟨"0", ⟨none, 0, none, [], false⟩, .sendrecv,
          [⟨⟨"audio/opus", 48000, 2, "", []⟩, 111⟩], .audio⟩⟩ }, { id := "1", data := true }] true = .ok d' ∧
      List.Forall₂ BuiltFrom
        [{ id := "0", transceiver := some ⟨0, ⟨"0", ⟨none, 0, none, [], false⟩, .sendrecv,
          [⟨⟨"audio/opus", 48000, 2, "", []⟩, 111⟩], .audio⟩⟩ }, { id := "1", data := true }]
        d'.mediaDescriptions ∧
      d'.attributes.filter (·.key = attrKeyGroup) = [⟨attrKeyGroup, some (bundleValue
        [{ id := "0", transceiver := some ⟨0, ⟨"0", ⟨none, 0, none, [], false⟩, .sendrecv,
          [⟨⟨"audio/opus", 48000, 2, "", []⟩, 111⟩], .audio⟩⟩ }, { id := "1", data := true }])⟩] ∧
      d'.mediaDescriptions.flatMap (·.attributesWithKey attrKeyMid) =
        (([{ id := "0", transceiver := some ⟨0, ⟨"0", ⟨none, 0, none, [], false⟩, .sendrecv,
          [⟨⟨"audio/opus", 48000, 2, "", []⟩, 111⟩], .audio⟩⟩ }, { id := "1", data := true }] :
          List MediaSection).filter (·.accepted)).map (fun s => ⟨attrKeyMid, some s.id⟩) :=
  ⟨rfl, by simp, Exists.imp (fun _ h => ⟨h, populateSdp_bundle_matches_mids h rfl (by simp)⟩) ⟨_, rfl⟩⟩

/-- For a description with no media yet: no candidate is added at session level and no
media description but the first gets one; the first gets the host candidates when its
section is accepted and none when it is rejected. -/
theorem populateSdp_candidates_first_section {d d' : SessionDescription} {S : List MediaSection}
    {mdf : Bool} (h : populateSdp d fps c ice role S mdf = .ok d') (hMedia : d.mediaDescriptions = []) :
    (∀ md ∈ d'.mediaDescriptions.tail, CandidateFree md) ∧
      (∀ s md, S.head? = some s → d'.mediaDescriptions.head? = some md →
        if s.accepted then CarriesHostCandidates c md else CandidateFree md) ∧
      d'.attributes.filter (fun a => a.key = "candidate" ∨ a.key = "end-of-candidates") =
        d.attributes.filter (fun a => a.key = "candidate" ∨ a.key = "end-of-candidates") := by
  obtain ⟨mds, hM, -, hP, hA⟩ := populateSdp_ok h
  rw [hMedia, List.nil_append] at hM
  rw [hM]
  refine ⟨?_, ?_, by cases mdf <;> simp [hA, sessionFingerprints, attrKeyGroup, attrKeyIcelite,
    List.filter_map, Function.comp_def]⟩
  · cases S with
    | nil => cases hP; simp
    | cons s rest =>
      cases hP with
      | cons _ hRest => exact candidateFree_of_placement Nat.one_pos hRest
  · intro s md hs hmd
    cases S with
    | nil => cases hs
    | cons s' rest =>
      cases hP with
      | cons hHead _ =>
        simp only [List.head?_cons, Option.some.injEq] at hs hmd
        subst hs hmd
        simpa [CandidatePlacement] using hHead

/-- A rejected transceiver section and then a data section: the first media description
carries no candidate, and neither does the later, accepted one. -/
theorem populateSdp_candidates_rejected_then_data :
    (⟨⟨1, 1⟩, [], []⟩ : SessionDescription).mediaDescriptions = [] ∧
    ∃ d', populateSdp ⟨⟨1, 1⟩, [], []⟩ [] ⟨"10.0.0.1", 5000⟩ ⟨"u", "p"⟩ .passive
        [{ id := "0", transceiver := some ⟨0, ⟨"0", ⟨none, 0, none, [], false⟩, .sendrecv, [], .audio⟩⟩ },
         { id := "1", data := true }] true = .ok d' ∧
      (∀ md ∈ d'.mediaDescriptions.tail, CandidateFree md) ∧
      (∀ s md, ([{ id := "0", transceiver := some ⟨0, ⟨"0", ⟨none, 0, none, [], false⟩, .sendrecv, [], .audio⟩⟩ },
          { id := "1", data := true }] : List MediaSection).head? = some s →
        d'.mediaDescriptions.head? = some md →
        if s.accepted then CarriesHostCandidates ⟨"10.0.0.1", 5000⟩ md else CandidateFree md) ∧
      d'.attributes.filter (fun a => a.key = "candidate" ∨ a.key = "end-of-candidates") =
        (⟨⟨1, 1⟩, [], []⟩ : SessionDescription).attributes.filter
          (fun a => a.key = "candidate" ∨ a.key = "end-of-candidates") :=
  ⟨rfl, Exists.imp (fun _ h => ⟨h, populateSdp_candidates_first_section h rfl⟩) ⟨_, rfl⟩⟩

/-- The sections `populate_sdp` stops on: a data section with a transceiver, a media
section without one, or a transceiver that has a track to send and no codec. -/
def MediaSection.Invalid (m : MediaSection) : Prop :=
  (m.data = true ∧ m.transceiver.isSome) ∨ (m.data = false ∧ m.transceiver = none) ∨
    (m.data = false ∧ ∃ r, m.transceiver = some r ∧ r.transceiver.codecs = [] ∧
      r.transceiver.sender.track.isSome)

/-- On a section that is a data section exactly when it has no transceiver, only a
transceiver with a track and no codec is invalid. -/
theorem MediaSection.invalid_iff {m : MediaSection} (hWell : m.data = true ↔ m.transceiver = none) :
    m.Invalid ↔
      ∃ r, m.transceiver = some r ∧ r.transceiver.codecs = [] ∧ r.transceiver.sender.track.isSome := by
  unfold MediaSection.Invalid
  cases hData : m.data <;> cases hT : m.transceiver <;> simp_all

/-- One section fails exactly when it is invalid; a section that is a data section exactly
when it has no transceiver can only fail for a sender without codecs. -/
theorem populateSection_error {i : Nat} {acc : SessionDescription × String} {m : MediaSection} :
    ((∃ e, populateSection fps c ice role i acc m = .error e) ↔ m.Invalid) ∧
      ∀ e, (m.data = true ↔ m.transceiver = none) →
        populateSection fps c ice role i acc m = .error e → e = .other "ErrSenderWithNoCodecs" := by
  unfold populateSection MediaSection.Invalid
  cases hData : m.data <;> cases hT : m.transceiver
  · simp [addTransceiverSdp_eq, hT, bind, Except.bind]
  · rename_i r
    by_cases hCodecs : r.transceiver.codecs = [] <;>
      by_cases hTrack : r.transceiver.sender.track.isSome <;>
      simp [addTransceiverSdp_eq, hT, hCodecs, hTrack, bind, Except.bind, pure, Except.pure]
  · simp [addDataMediaSection_eq, bind, Except.bind, pure, Except.pure]
  · simp

/-- The loop fails exactly when some section is invalid. -/
theorem populateSections_error {i : Nat} {acc : SessionDescription × String} {S : List MediaSection} :
    ((∃ e, populateSections fps c ice role i acc S = .error e) ↔ ∃ m ∈ S, m.Invalid) ∧
      ∀ e, (∀ m ∈ S, m.data = true ↔ m.transceiver = none) →
        populateSections fps c ice role i acc S = .error e → e = .other "ErrSenderWithNoCodecs" := by
  induction S generalizing i acc with
  | nil => simp [populateSections]
  | cons m rest ih =>
    obtain ⟨hIff, hMessage⟩ := @populateSection_error fps c ice role i acc m
    cases hStep : populateSection fps c ice role i acc m with
    | error e =>
      have hRun : populateSections fps c ice role i acc (m :: rest) = .error e := by
        simp only [populateSections, bind, Except.bind, hStep]
      refine ⟨⟨fun _ => ⟨m, List.mem_cons_self m rest, hIff.mp ⟨e, hStep⟩⟩, fun _ => ⟨e, hRun⟩⟩,
        fun e' hWell h => ?_⟩
      rw [hRun, Except.error.injEq] at h
      exact h ▸ hMessage e (hWell m (List.mem_cons_self m rest)) hStep
    | ok acc₁ =>
      have hRun : populateSections fps c ice role i acc (m :: rest) =
          populateSections fps c ice role (i + 1) acc₁ rest := by
        simp only [populateSections, bind, Except.bind, hStep]
      have hValid : ¬m.Invalid := fun hInvalid => by
        obtain ⟨e, he⟩ := hIff.mpr hInvalid
        rw [hStep] at he
        cases he
      obtain ⟨ihIff, ihMessage⟩ := @ih (i + 1) acc₁
      rw [hRun]
      exact ⟨by simp [hValid, ihIff],
        fun e hWell => ihMessage e (fun m' hm' => hWell m' (List.mem_cons_of_mem m hm'))⟩

/-- `populate_sdp` fails exactly when some section is invalid, and on sections that are
data sections exactly when they have no transceiver only with `ErrSenderWithNoCodecs`. -/
theorem populateSdp_error {d : SessionDescription} {S : List MediaSection} {mdf : Bool} :
    ((∃ e, populateSdp d fps c ice role S mdf = .error e) ↔ ∃ m ∈ S, m.Invalid) ∧
      ∀ e, (∀ m ∈ S, m.data = true ↔ m.transceiver = none) →
        populateSdp d fps c ice role S mdf = .error e → e = .other "ErrSenderWithNoCodecs" := by
  obtain ⟨hIff, hMessage⟩ := @populateSections_error (if mdf then fps else []) c ice role 0 (d, "BUNDLE") S
  have hSame : ∀ e, populateSdp d fps c ice role S mdf = .error e ↔
      populateSections (if mdf then fps else []) c ice role 0 (d, "BUNDLE") S = .error e := by
    intro e
    simp only [populateSdp, bind, Except.bind]
    cases populateSections (if mdf then fps else []) c ice role 0 (d, "BUNDLE") S <;>
      simp [pure, Except.pure]
  simp only [hSame]
  exact ⟨hIff, hMessage⟩

end Loop

/-- A rejected section first and a data section second: `populate_sdp` succeeds, and no
media description carries a candidate, not even the data section, the first accepted one. -/
theorem populateSdp_rejected_first_no_candidates :
    (populateSdp ⟨⟨1, 1⟩, [], []⟩ [] ⟨"10.0.0.1", 5000⟩ ⟨"ufrag", "pwd"⟩ .passive
      [{ id := "0", transceiver := some ⟨0, ⟨"0", ⟨none, 0, none, [], true⟩, .sendrecv, [], .audio⟩⟩ },
       { id := "1", data := true }] true).map
      (fun d' => d'.mediaDescriptions.map (·.attributesWithKey "candidate")) = .ok [[], []] := by
  rfl

end Sfu
