import Sfu.Session.Plan

/-! What `generate_matched_sdp` guarantees to its callers: the media descriptions follow
the spec's section list, the errors it can return and exactly when, the marks it leaves on
the caller's senders in every outcome, and when the mids it emits are distinct. -/
namespace Sfu

open Sdp

variable {order : IterationOrder}

/-- Whenever `generate_matched_sdp` returns a description, its media descriptions follow
the spec's section list one for one and in order: each is an application section exactly
when its element is a data section, and carries that element's mid unless it is
rejected. -/
theorem generateMatchedSdp_sections_follow_plan {self : Session} {origin : Origin}
    {R : RTCSessionDescription} {ice : RTCIceParameters} {ts : List RTCRtpTransceiver}
    {useIdentity inc : Bool} {role : ConnectionRole} {d : SessionDescription}
    (h : (self.generateMatchedSdp origin order R ice ts useIdentity inc role).2 = .ok d) :
    List.Forall₂ (fun md (p : PlannedSection) =>
        (md.mediaName.media = mediaSectionApplication ↔ p.data = true) ∧
        (md.mediaName.port.value ≠ 0 →
          md.attributesWithKey attrKeyMid = [⟨attrKeyMid, some p.mid⟩]))
      d.mediaDescriptions (sectionPlan (remoteMedia R) ts inc) := by
  obtain ⟨hNo, cert, -, hPop⟩ := generateMatchedSdp_ok h
  obtain ⟨mds, hM, hBuilt, -⟩ := populateSdp_ok hPop
  rw [SessionDescription.newJsepSessionDescription_mediaDescriptions, List.nil_append] at hM
  rw [hM, ← matchedSections_plan hNo, List.forall₂_map_right_iff]
  refine List.Forall₂.flip (hBuilt.imp fun s md hb => ⟨hb.application, fun hPort => ?_⟩)
  have hAccepted : s.accepted = true := by simpa [hPort] using hb.rejected.not
  simpa [hAccepted, MediaSection.plan] using hb.mid

/-- An audio section on a local transceiver, then an application section. -/
theorem generateMatchedSdp_audio_then_application :
    ∃ d, (Session.generateMatchedSdp ⟨1, ⟨"10.0.0.1", 5000⟩, [⟨[⟨"sha-256", "AB"⟩]⟩], []⟩ ⟨1, 1⟩ .insertion
        ⟨.offer, "", some ⟨⟨1, 1⟩, [],
          [⟨⟨"audio", ⟨9, none⟩, [], []⟩, none, [⟨"mid", some "0"⟩, ⟨"sendrecv", none⟩]⟩,
           ⟨⟨"application", ⟨9, none⟩, [], []⟩, none, [⟨"mid", some "1"⟩]⟩]⟩⟩
        ⟨"u", "p"⟩
        [⟨"0", ⟨none, 1, none, [], false⟩, .sendrecv,
          [⟨⟨"audio/opus", 48000, 2, "", []⟩, 111⟩], .audio⟩]
        false false .passive).2 = .ok d ∧
      List.Forall₂ (fun md (p : PlannedSection) =>
          (md.mediaName.media = mediaSectionApplication ↔ p.data = true) ∧
          (md.mediaName.port.value ≠ 0 →
            md.attributesWithKey attrKeyMid = [⟨attrKeyMid, some p.mid⟩]))
        d.mediaDescriptions
        (sectionPlan
          [⟨⟨"audio", ⟨9, none⟩, [], []⟩, none, [⟨"mid", some "0"⟩, ⟨"sendrecv", none⟩]⟩,
           ⟨⟨"application", ⟨9, none⟩, [], []⟩, none, [⟨"mid", some "1"⟩]⟩]
          [⟨"0", ⟨none, 1, none, [], false⟩, .sendrecv,
            [⟨⟨"audio/opus", 48000, 2, "", []⟩, 111⟩], .audio⟩]
          false) :=
  Exists.imp (fun _ h => ⟨h, generateMatchedSdp_sections_follow_plan h⟩) ⟨_, rfl⟩

/-- `generate_matched_sdp` fails exactly when a remote section has an empty mid, a remote
media section's mid is no local transceiver's, the session has no certificate, or a
referenced transceiver has a track to send and no codec; its error is then one of those
four, never one of the errors `populate_sdp` and `add_transceiver_sdp` keep for sections
the matcher does not build. -/
theorem generateMatchedSdp_error_iff {self : Session} {origin : Origin}
    {R : RTCSessionDescription} {ice : RTCIceParameters} {ts : List RTCRtpTransceiver}
    {useIdentity inc : Bool} {role : ConnectionRole} :
    ((∃ e, (self.generateMatchedSdp origin order R ice ts useIdentity inc role).2 = .error e) ↔
      (∃ m ∈ remoteMedia R, getMidValue m = some "") ∨
      (∃ m ∈ remoteMedia R, ∃ v, getMidValue m = some v ∧ v ≠ "" ∧ isMediaSection m = true ∧
        ∀ t ∈ ts, t.mid ≠ v) ∨
      self.certificates = [] ∨
      (∃ m ∈ remoteMedia R, ∃ v r, getMidValue m = some v ∧ isMediaSection m = true ∧
        findTransceiver v 0 ts = some r ∧ r.transceiver.codecs = [] ∧
        r.transceiver.sender.track.isSome) ∨
      (inc = true ∧ ∃ t ∈ ts,
        (∀ m ∈ remoteMedia R, isMediaSection m = true → getMidValue m ≠ some t.mid) ∧
        t.codecs = [] ∧ t.sender.track.isSome)) ∧
    ∀ e, (self.generateMatchedSdp origin order R ice ts useIdentity inc role).2 = .error e →
      e ∈ [.other "ErrPeerConnRemoteDescriptionWithoutMidValue",
        .other "ErrPeerConnTransceiverMidNil", .other "ErrNonCertificate",
        .other "ErrSenderWithNoCodecs"] := by
  simp only [generateMatchedSdp_eq]
  by_cases hNo : ∀ m ∈ remoteMedia R, ¬RejectsMedia ts m
  · have hA : ¬∃ m ∈ remoteMedia R, getMidValue m = some "" := fun ⟨m, hm, hMid⟩ =>
      hNo m hm (.inl hMid)
    have hB : ¬∃ m ∈ remoteMedia R, ∃ v, getMidValue m = some v ∧ v ≠ "" ∧ isMediaSection m = true ∧
        ∀ t ∈ ts, t.mid ≠ v := fun ⟨m, hm, v, hMid, hv, hKind, hNone⟩ =>
      hNo m hm (.inr ⟨v, hMid, hv, hKind, findTransceiver_none.mpr hNone⟩)
    simp only [matchMediaSections_eq hNo, bind, Except.bind, hA, hB, false_or]
    cases hCert : self.certificates with
    | nil =>
      refine ⟨iff_of_true ⟨_, rfl⟩ (.inl rfl), fun e he => ?_⟩
      cases he
      simp
    | cons cert rest =>
      obtain ⟨hIff, hMessage⟩ := @populateSdp_error cert.getFingerprints self.localAddr ice role
        (.newJsepSessionDescription origin useIdentity) (matchedSections order (remoteMedia R) ts inc) true
      have hWell := @matchedSections_wellFormed order ts inc _ hNo
      simp only [List.head?_cons, reduceCtorEq, false_or]
      refine ⟨hIff.trans ((matchedSections_invalid hNo).trans (matchedSections_references hNo
        fun t => t.codecs = [] ∧ t.sender.track.isSome)), fun e he => ?_⟩
      simp [hMessage e hWell he]
  · push_neg at hNo
    obtain ⟨m, hm, hRejects⟩ := hNo
    obtain ⟨e, he⟩ : ∃ e, (matchMediaSections order R ts inc).2 = .error e := by
      cases hMatch : (matchMediaSections order R ts inc).2 with
      | error e => exact ⟨e, rfl⟩
      | ok S => exact absurd hRejects (matchMediaSections_ok_iff.mp ⟨S, hMatch⟩ m hm)
    simp only [he, bind, Except.bind]
    refine ⟨iff_of_true ⟨e, rfl⟩ ?_, fun e' he' => ?_⟩
    · rcases hRejects with hMid | ⟨v, hMid, hv, hKind, hNone⟩
      exacts [.inl ⟨m, hm, hMid⟩,
        .inr (.inl ⟨m, hm, v, hMid, hv, hKind, findTransceiver_none.mp hNone⟩)]
    · cases he'
      rcases (matchMediaSections_error he).2 with rfl | rfl <;> simp

/-- Whatever it returns, `generate_matched_sdp` changes the caller's transceivers only by
marking senders negotiated, at the positions the matcher recorded, a failed call included.
If some remote section is rejected, the call fails, and the positions are those of the
transceivers the remote media sections before the first rejected one matched, in order.
If none is, the positions are exactly those of the transceivers the matcher's sections
reference, which is the case whenever the call returns a description. -/
theorem generateMatchedSdp_marks_recorded_positions {self : Session} {origin : Origin}
    {R : RTCSessionDescription} {ice : RTCIceParameters} {ts : List RTCRtpTransceiver}
    {useIdentity inc : Bool} {role : ConnectionRole} :
    (self.generateMatchedSdp origin order R ice ts useIdentity inc role).1 =
        ts.mapIdx (fun i t => if i ∈ (matchMediaSections order R ts inc).1 then t.setNegotiated else t) ∧
      (∀ pre m post, remoteMedia R = pre ++ m :: post → (∀ x ∈ pre, ¬RejectsMedia ts x) →
        RejectsMedia ts m →
        (∃ e, (self.generateMatchedSdp origin order R ice ts useIdentity inc role).2 = .error e) ∧
        (matchMediaSections order R ts inc).1 = (pre.filter isMediaSection).filterMap fun media =>
          (getMidValue media).bind fun v => (findTransceiver v 0 ts).map (·.index)) ∧
      ((∀ m ∈ remoteMedia R, ¬RejectsMedia ts m) →
        (matchMediaSections order R ts inc).1 =
          (matchedSections order (remoteMedia R) ts inc).filterMap (·.transceiverIndex) ∧
        ∀ r ∈ (matchedSections order (remoteMedia R) ts inc).filterMap (·.transceiver),
          ts[r.index]? = some r.transceiver) ∧
      ∀ d, (self.generateMatchedSdp origin order R ice ts useIdentity inc role).2 = .ok d →
        ∀ m ∈ remoteMedia R, ¬RejectsMedia ts m := by
  refine ⟨by rw [generateMatchedSdp_eq, markNegotiated_eq], fun pre m post hR hPre hm => ?_,
    fun hNo => ⟨by rw [matchMediaSections_eq hNo], matchedSections_positions hNo⟩,
    fun d h => (generateMatchedSdp_ok h).1⟩
  obtain ⟨hMarks, e, he⟩ := @matchMediaSections_stops order R ts inc pre post m hR hPre hm
  exact ⟨⟨e, by simp [generateMatchedSdp_eq, he, bind, Except.bind]⟩,
    hMarks.trans (remoteSections_positions ts inc pre)⟩

/-- Remote audio sections "0" and "1" against one local transceiver "0": the call fails on
"1" after marking the sender of "0", and the caller keeps that mark. -/
theorem generateMatchedSdp_error_keeps_mark :
    Session.generateMatchedSdp ⟨1, ⟨"10.0.0.1", 5000⟩, [⟨[⟨"sha-256", "AB"⟩]⟩], []⟩ ⟨1, 1⟩ .insertion
        ⟨.offer, "", some ⟨⟨1, 1⟩, [],
          [⟨⟨"audio", ⟨9, none⟩, [], []⟩, none, [⟨"mid", some "0"⟩, ⟨"sendrecv", none⟩]⟩,
           ⟨⟨"audio", ⟨9, none⟩, [], []⟩, none, [⟨"mid", some "1"⟩, ⟨"sendrecv", none⟩]⟩]⟩⟩
        ⟨"u", "p"⟩
        [⟨"0", ⟨none, 1, none, [], false⟩, .sendrecv,
          [⟨⟨"audio/opus", 48000, 2, "", []⟩, 111⟩], .audio⟩]
        false false .passive =
      ([⟨"0", ⟨none, 1, none, [], true⟩, .sendrecv,
          [⟨⟨"audio/opus", 48000, 2, "", []⟩, 111⟩], .audio⟩],
        .error (.other "ErrPeerConnTransceiverMidNil")) := rfl

/-- An offer against a remote audio section "1" and a local transceiver "1": the
synthetic data section is named "1" too, from the one section before it, and the BUNDLE
group lists "1" twice. -/
theorem generateMatchedSdp_synthetic_repeats_mid :
    (Session.generateMatchedSdp ⟨1, ⟨"10.0.0.1", 5000⟩, [⟨[]⟩], []⟩ ⟨1, 1⟩ .insertion
        ⟨.offer, "", some ⟨⟨1, 1⟩, [],
          [⟨⟨"audio", ⟨9, none⟩, [], []⟩, none, [⟨"mid", some "1"⟩, ⟨"sendrecv", none⟩]⟩]⟩⟩
        ⟨"u", "p"⟩
        [⟨"1", ⟨none, 1, none, [], false⟩, .sendrecv,
          [⟨⟨"audio/opus", 48000, 2, "", []⟩, 111⟩], .audio⟩]
        false true .passive).2.map
      (fun d => (d.mediaDescriptions.flatMap (·.attributesWithKey attrKeyMid),
        d.attributes.filter (·.key = attrKeyGroup))) =
      .ok ([⟨attrKeyMid, some "1"⟩, ⟨attrKeyMid, some "1"⟩],
        [⟨attrKeyGroup, some "BUNDLE 1 1"⟩]) := rfl

/-- With distinct remote mids, distinct local mids and no local mid on a remote
application section, the mids of a returned description are the ids its BUNDLE group
lists, and they are pairwise distinct except possibly for a last one: the synthetic data
section of an offer, named by the number of sections before it. -/
theorem generateMatchedSdp_mids_distinct_except_synthetic {self : Session} {origin : Origin}
    {R : RTCSessionDescription} {ice : RTCIceParameters} {ts : List RTCRtpTransceiver}
    {useIdentity inc : Bool} {role : ConnectionRole} {d : SessionDescription}
    (hRemote : ((remoteMedia R).filterMap getMidValue).Nodup) (hLocal : (ts.map (·.mid)).Nodup)
    (hApp : ∀ t ∈ ts, ∀ m ∈ remoteMedia R,
      m.mediaName.media = mediaSectionApplication → getMidValue m ≠ some t.mid)
    (h : (self.generateMatchedSdp origin order R ice ts useIdentity inc role).2 = .ok d) :
    ∃ mids : List String,
      d.mediaDescriptions.flatMap (·.attributesWithKey attrKeyMid) =
        mids.map (⟨attrKeyMid, some ·⟩) ∧
      d.attributes.filter (·.key = attrKeyGroup) =
        [⟨attrKeyGroup, some ("BUNDLE" ++ String.join (mids.map (" " ++ ·)))⟩] ∧
      (mids.Nodup ∨ inc = true ∧ mids.dropLast.Nodup ∧
        mids.getLast? = some (toString (d.mediaDescriptions.length - 1))) := by
  obtain ⟨hNo, cert, -, hPop⟩ := generateMatchedSdp_ok h
  obtain ⟨mds, hM, hF, -, -⟩ := populateSdp_ok hPop
  rw [SessionDescription.newJsepSessionDescription_mediaDescriptions, List.nil_append] at hM
  have hGroup : ∀ a ∈ (SessionDescription.newJsepSessionDescription origin useIdentity).attributes,
      a.key ≠ attrKeyGroup := by
    cases useIdentity <;> simp [attrKeyIdentity, attrKeyGroup]
  refine ⟨((matchedSections order (remoteMedia R) ts inc).filter (·.accepted)).map (·.id),
    by rw [hM, mids_of_builtFrom hF, List.map_map]; rfl,
    by rw [populateSdp_group hPop hGroup, bundleValue, List.map_map]; rfl, ?_⟩
  obtain ⟨pre, hPre, hShape⟩ := @matchedSections_ids order ts inc _ hNo hRemote hLocal hApp
  have hAccepted : ((pre.filter (·.accepted)).map (·.id)).Nodup :=
    hPre.sublist ((List.filter_sublist pre).map _)
  rw [hM, ← hF.length_eq]
  rcases hShape with hEq | ⟨hInc, hEq⟩ <;> rw [hEq]
  · exact .inl hAccepted
  · rw [List.filter_append, List.filter_cons_of_pos rfl, List.filter_nil, List.map_append,
      List.map_singleton]
    exact .inr ⟨hInc, by rw [List.dropLast_concat]; exact hAccepted, by simp⟩

/-- The same offer meets the hypotheses: its mids are "1" then the synthetic "1". -/
theorem generateMatchedSdp_mids_distinct_except_synthetic_offer :
    ((remoteMedia ⟨.offer, "", some ⟨⟨1, 1⟩, [],
        [⟨⟨"audio", ⟨9, none⟩, [], []⟩, none, [⟨"mid", some "1"⟩, ⟨"sendrecv", none⟩]⟩]⟩⟩).filterMap
      getMidValue).Nodup ∧
    (([⟨"1", ⟨none, 1, none, [], false⟩, .sendrecv,
        [⟨⟨"audio/opus", 48000, 2, "", []⟩, 111⟩], .audio⟩] : List RTCRtpTransceiver).map
      (·.mid)).Nodup ∧
    (∀ t ∈ ([⟨"1", ⟨none, 1, none, [], false⟩, .sendrecv,
        [⟨⟨"audio/opus", 48000, 2, "", []⟩, 111⟩], .audio⟩] : List RTCRtpTransceiver),
      ∀ m ∈ remoteMedia ⟨.offer, "", some ⟨⟨1, 1⟩, [],
          [⟨⟨"audio", ⟨9, none⟩, [], []⟩, none, [⟨"mid", some "1"⟩, ⟨"sendrecv", none⟩]⟩]⟩⟩,
        m.mediaName.media = mediaSectionApplication → getMidValue m ≠ some t.mid) ∧
    ∃ d, (Session.generateMatchedSdp ⟨1, ⟨"10.0.0.1", 5000⟩, [⟨[]⟩], []⟩ ⟨1, 1⟩ .insertion
        ⟨.offer, "", some ⟨⟨1, 1⟩, [],
          [⟨⟨"audio", ⟨9, none⟩, [], []⟩, none, [⟨"mid", some "1"⟩, ⟨"sendrecv", none⟩]⟩]⟩⟩
        ⟨"u", "p"⟩
        [⟨"1", ⟨none, 1, none, [], false⟩, .sendrecv,
          [⟨⟨"audio/opus", 48000, 2, "", []⟩, 111⟩], .audio⟩]
        false true .passive).2 = .ok d ∧
      ∃ mids : List String,
        d.mediaDescriptions.flatMap (·.attributesWithKey attrKeyMid) =
          mids.map (⟨attrKeyMid, some ·⟩) ∧
        d.attributes.filter (·.key = attrKeyGroup) =
          [⟨attrKeyGroup, some ("BUNDLE" ++ String.join (mids.map (" " ++ ·)))⟩] ∧
        (mids.Nodup ∨ true = true ∧ mids.dropLast.Nodup ∧
          mids.getLast? = some (toString (d.mediaDescriptions.length - 1))) :=
  ⟨by decide, by decide, by decide, Exists.imp (fun _ h =>
    ⟨h, generateMatchedSdp_mids_distinct_except_synthetic (by decide) (by decide) (by decide) h⟩)
    ⟨_, rfl⟩⟩

/-- Whenever `generate_matched_sdp` returns a description, its first media descriptions
are those of the retained remote sections, in order; and each remote section the matcher
pairs with a local transceiver that has codecs gets one `a=rid:<id> recv` per distinct rid
it lists (the first token of a valued `rid` attribute) and no other `a=rid`, and, exactly
when it lists one, a single `a=simulcast` giving the same ids in the same order. -/
theorem generateMatchedSdp_rids_simulcast {self : Session} {origin : Origin}
    {R : RTCSessionDescription} {ice : RTCIceParameters} {ts : List RTCRtpTransceiver}
    {useIdentity inc : Bool} {role : ConnectionRole} {d : SessionDescription}
    (h : (self.generateMatchedSdp origin order R ice ts useIdentity inc role).2 = .ok d) :
    ∃ pre post, d.mediaDescriptions = pre ++ post ∧
      List.Forall₂ (fun media md => ∀ v r, getMidValue media = some v → isMediaSection media = true →
          findTransceiver v 0 ts = some r → r.transceiver.codecs ≠ [] →
          ∃ ids : List String, ids.Nodup ∧ (∀ x, x ∈ ids ↔ x ∈ ridTokens media) ∧
            md.attributesWithKey sdpAttributeRid = ids.map (fun id => ⟨sdpAttributeRid, some (id ++ " recv")⟩) ∧
            md.attributesWithKey "simulcast" =
              if ids = [] then [] else [⟨"simulcast", some ("recv " ++ ";".intercalate ids)⟩])
        ((remoteMedia R).filter isRetained) pre := by
  obtain ⟨hNo, cert, -, hPop⟩ := generateMatchedSdp_ok h
  have hMedia := populateSdp_media hPop
  rw [SessionDescription.newJsepSessionDescription_mediaDescriptions, List.nil_append] at hMedia
  obtain ⟨rest, hSplit⟩ := @matchedSections_starts_with_remote order ts inc (remoteMedia R)
  rw [← hSplit, List.enum, List.enumFrom_append, List.map_append] at hMedia
  refine ⟨_, _, hMedia, forall₂_enumFrom_map (fun media s i hs v r hMid hKind hFind hCodecs => ?_) 0
    (@retained_remoteSections order ts inc _ hNo)⟩
  have hSection : s =
      { id := v, transceiver := some r, ridMap := getRids order media
        offeredDirection := if inc then none else some (getPeerDirection media) } := by
    simpa [remoteSection, hMid, (isMediaSection_iff.mp hKind).1, hKind, hFind, eq_comm] using hs
  have hT : s.transceiver = some r := by rw [hSection]
  obtain ⟨hNodup, hMem⟩ := getRids_keys order media
  refine ⟨_, hNodup, hMem, ?_, ?_⟩
  · rw [(sectionMedia_rids _ i hT hCodecs).1, hSection, List.map_map]
    rfl
  · rw [(sectionMedia_rids _ i hT hCodecs).2, hSection]
    simp

/-- An application section, then a video section listing rid "h" and a valueless `rid`,
on a local transceiver with a codec. -/
theorem generateMatchedSdp_rids_simulcast_video :
    ∃ d, (Session.generateMatchedSdp ⟨1, ⟨"10.0.0.1", 5000⟩, [⟨[⟨"sha-256", "AB"⟩]⟩], []⟩ ⟨1, 1⟩ .insertion
        ⟨.offer, "", some ⟨⟨1, 1⟩, [],
          [⟨⟨"application", ⟨9, none⟩, [], []⟩, none, [⟨"mid", some "0"⟩]⟩,
           ⟨⟨"video", ⟨9, none⟩, [], []⟩, none,
            [⟨"mid", some "1"⟩, ⟨"sendrecv", none⟩, ⟨"rid", some "h send"⟩, ⟨"rid", none⟩]⟩]⟩⟩
        ⟨"u", "p"⟩
        [⟨"1", ⟨none, 1, none, [], false⟩, .sendrecv, [⟨⟨"video/VP8", 90000, 0, "", []⟩, 96⟩], .video⟩]
        false false .passive).2 = .ok d ∧
      ∃ pre post, d.mediaDescriptions = pre ++ post ∧
        List.Forall₂ (fun media md => ∀ v r, getMidValue media = some v → isMediaSection media = true →
            findTransceiver v 0
              [⟨"1", ⟨none, 1, none, [], false⟩, .sendrecv, [⟨⟨"video/VP8", 90000, 0, "", []⟩, 96⟩], .video⟩] =
                some r →
            r.transceiver.codecs ≠ [] →
            ∃ ids : List String, ids.Nodup ∧ (∀ x, x ∈ ids ↔ x ∈ ridTokens media) ∧
              md.attributesWithKey sdpAttributeRid = ids.map (fun id => ⟨sdpAttributeRid, some (id ++ " recv")⟩) ∧
              md.attributesWithKey "simulcast" =
                if ids = [] then [] else [⟨"simulcast", some ("recv " ++ ";".intercalate ids)⟩])
          ((remoteMedia ⟨.offer, "", some ⟨⟨1, 1⟩, [],
            [⟨⟨"application", ⟨9, none⟩, [], []⟩, none, [⟨"mid", some "0"⟩]⟩,
             ⟨⟨"video", ⟨9, none⟩, [], []⟩, none,
              [⟨"mid", some "1"⟩, ⟨"sendrecv", none⟩, ⟨"rid", some "h send"⟩, ⟨"rid", none⟩]⟩]⟩⟩).filter
            isRetained) pre :=
  Exists.imp (fun _ h => ⟨h, generateMatchedSdp_rids_simulcast h⟩) ⟨_, rfl⟩

/-- The msid lines of a media description: the attributes whose key begins with
"msid:". -/
def msidLines (md : MediaDescription) : List String :=
  (md.attributes.filter fun a => "msid:".data.isPrefixOf a.key.data).map (·.key)

/-- A transceiver sending stream "s" on track "A" is negotiated, and the sender it comes
back with is given track "B": the first answer's msid line names "A", the second's "B". -/
theorem generateMatchedSdp_msid_names_new_track :
    (Session.generateMatchedSdp ⟨1, ⟨"10.0.0.1", 5000⟩, [⟨[]⟩], []⟩ ⟨1, 1⟩ .insertion
        ⟨.offer, "", some ⟨⟨1, 1⟩, [],
          [⟨⟨"audio", ⟨9, none⟩, [], []⟩, none, [⟨"mid", some "0"⟩, ⟨"sendrecv", none⟩]⟩]⟩⟩
        ⟨"u", "p"⟩
        [⟨"0", ⟨some ⟨"A", "s"⟩, 1, none, ["s"], false⟩, .sendrecv,
          [⟨⟨"audio/opus", 48000, 2, "", []⟩, 111⟩], .audio⟩]
        false false .passive).1 =
      [⟨"0", ⟨some ⟨"A", "s"⟩, 1, none, ["s"], true⟩, .sendrecv,
        [⟨⟨"audio/opus", 48000, 2, "", []⟩, 111⟩], .audio⟩] ∧
    (Session.generateMatchedSdp ⟨1, ⟨"10.0.0.1", 5000⟩, [⟨[]⟩], []⟩ ⟨1, 1⟩ .insertion
        ⟨.offer, "", some ⟨⟨1, 1⟩, [],
          [⟨⟨"audio", ⟨9, none⟩, [], []⟩, none, [⟨"mid", some "0"⟩, ⟨"sendrecv", none⟩]⟩]⟩⟩
        ⟨"u", "p"⟩
        [⟨"0", ⟨some ⟨"A", "s"⟩, 1, none, ["s"], false⟩, .sendrecv,
          [⟨⟨"audio/opus", 48000, 2, "", []⟩, 111⟩], .audio⟩]
        false false .passive).2.map (·.mediaDescriptions.map msidLines) = .ok [["msid:s A"]] ∧
    (Session.generateMatchedSdp ⟨1, ⟨"10.0.0.1", 5000⟩, [⟨[]⟩], []⟩ ⟨1, 1⟩ .insertion
        ⟨.offer, "", some ⟨⟨1, 1⟩, [],
          [⟨⟨"audio", ⟨9, none⟩, [], []⟩, none, [⟨"mid", some "0"⟩, ⟨"sendrecv", none⟩]⟩]⟩⟩
        ⟨"u", "p"⟩
        [⟨"0", ⟨some ⟨"B", "s"⟩, 1, none, ["s"], true⟩, .sendrecv,
          [⟨⟨"audio/opus", 48000, 2, "", []⟩, 111⟩], .audio⟩]
        false false .passive).2.map (·.mediaDescriptions.map msidLines) = .ok [["msid:s B"]] :=
  ⟨rfl, rfl, rfl⟩

end Sfu
