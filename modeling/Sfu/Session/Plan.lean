import Mathlib.Data.List.Nodup
import Sfu.Session.Match

/-! The section list the spec describes for `generate_matched_sdp`: the retained remote
sections in order, then, for an offer, the unmatched local transceivers and a synthetic
data section. The matcher's closed form `matchedSections` refines it element by element;
the lemmas here also say which transceivers the sections reference, where they sit in the
caller's slice, and when the section ids are distinct. -/
namespace Sfu

open Sdp

variable {order : IterationOrder}

/-- An element of the section list: whether it is a data section, and its mid. -/
structure PlannedSection where
  data : Bool
  mid : String
  deriving DecidableEq, Repr

def MediaSection.plan (m : MediaSection) : PlannedSection := ⟨m.data, m.id⟩

/-- A remote section the spec keeps: it has a mid, and it is an application section or
has a recognised kind and peer direction. -/
def isRetained (media : MediaDescription) : Bool :=
  (getMidValue media).isSome && (media.mediaName.media = mediaSectionApplication || isMediaSection media)

/-- The section list in the spec's words: the retained remote sections in order; for an
offer, then the local transceivers whose mid is no retained media section's, and a data
section, named by the count before it, when no retained section is an application one. -/
def sectionPlan (remote : List MediaDescription) (localTransceivers : List RTCRtpTransceiver)
    (includeUnmatched : Bool) : List PlannedSection :=
  let retained := remote.filter isRetained
  let remotePlan := retained.filterMap fun media =>
    (getMidValue media).map (⟨media.mediaName.media = mediaSectionApplication, ·⟩)
  if includeUnmatched then
    let mediaMids := (retained.filter isMediaSection).filterMap getMidValue
    let unmatched := (localTransceivers.filter (·.mid ∉ mediaMids)).map (⟨false, ·.mid⟩)
    if retained.any (·.mediaName.media = mediaSectionApplication) then remotePlan ++ unmatched
    else remotePlan ++ unmatched ++ [⟨true, toString (remotePlan.length + unmatched.length)⟩]
  else remotePlan

/-- What one remote section the matcher gets past becomes: nothing when the spec drops
it, a data section, or a section on the first transceiver with its mid. -/
theorem remoteSection_cases (order : IterationOrder) {ts : List RTCRtpTransceiver} (inc : Bool) {media : MediaDescription}
    (h : ¬RejectsMedia ts media) :
    (isRetained media = false ∧ remoteSection order ts inc media = none) ∨
      (∃ v, getMidValue media = some v ∧ media.mediaName.media = mediaSectionApplication ∧
        remoteSection order ts inc media = some { id := v, data := true }) ∨
      (∃ v r, getMidValue media = some v ∧ isMediaSection media = true ∧
        findTransceiver v 0 ts = some r ∧
        remoteSection order ts inc media =
          some { id := v, transceiver := some r, ridMap := getRids order media,
                 offeredDirection := if inc then none else some (getPeerDirection media) }) := by
  unfold remoteSection
  cases hMid : getMidValue media with
  | none => exact .inl ⟨by simp [isRetained, hMid], rfl⟩
  | some v =>
    by_cases hApp : media.mediaName.media = mediaSectionApplication
    · exact .inr (.inl ⟨v, rfl, hApp, by simp [hApp]⟩)
    by_cases hKind : isMediaSection media
    · cases hFind : findTransceiver v 0 ts with
      | none =>
        have hEmpty : v ≠ "" := fun hv => h (.inl (hv ▸ hMid))
        exact absurd (.inr ⟨v, hMid, hEmpty, hKind, hFind⟩) h
      | some r =>
        exact .inr (.inr ⟨v, r, rfl, hKind, hFind, by simp [hApp, hKind, hFind]⟩)
    · exact .inl ⟨by simp [isRetained, hMid, hApp, hKind], by simp [hApp, hKind]⟩

/-- What `remoteSection` gives when it gives a section: a data section for an application
section with a mid, or a section on the first local transceiver with the mid of a
recognised media section. -/
theorem remoteSection_eq_some {ts : List RTCRtpTransceiver} {inc : Bool} {media : MediaDescription}
    {s : MediaSection} (h : remoteSection order ts inc media = some s) :
    ∃ v, getMidValue media = some v ∧
      ((media.mediaName.media = mediaSectionApplication ∧ s = { id := v, data := true }) ∨
        (isMediaSection media = true ∧ ∃ r, findTransceiver v 0 ts = some r ∧
          s = { id := v, transceiver := some r, ridMap := getRids order media
                offeredDirection := if inc then none else some (getPeerDirection media) })) := by
  unfold remoteSection at h
  cases hMid : getMidValue media with
  | none => simp [hMid] at h
  | some v =>
    simp only [hMid] at h
    refine ⟨v, rfl, ?_⟩
    by_cases hApp : media.mediaName.media = mediaSectionApplication
    · simp only [hApp, if_true, Option.some.injEq] at h
      exact .inl ⟨hApp, h.symm⟩
    by_cases hKind : isMediaSection media
    · simp only [hApp, hKind, if_false, if_true, Option.map_eq_some'] at h
      obtain ⟨r, hFind, rfl⟩ := h
      exact .inr ⟨hKind, r, hFind, rfl⟩
    · simp [hApp, hKind] at h

section Plan

variable {ts : List RTCRtpTransceiver} {inc : Bool} {remote : List MediaDescription}

private theorem kept_plan (h : ∀ m ∈ remote, ¬RejectsMedia ts m) :
    (remote.filterMap (remoteSection order ts inc)).map MediaSection.plan =
      (remote.filter isRetained).filterMap fun media =>
        (getMidValue media).map (⟨media.mediaName.media = mediaSectionApplication, ·⟩) := by
  rw [List.map_filterMap, List.filterMap_filter]
  refine List.filterMap_congr fun media hm => ?_
  rcases remoteSection_cases order inc (h media hm) with ⟨hR, hS⟩ | ⟨v, hMid, hApp, hS⟩ |
    ⟨v, r, hMid, hKind, -, hS⟩
  · simp [hR, hS]
  · simp [hS, hMid, hApp, isRetained, MediaSection.plan]
  · simp [hS, hMid, (isMediaSection_iff.mp hKind).1, hKind, isRetained, MediaSection.plan]

private theorem kept_mids (h : ∀ m ∈ remote, ¬RejectsMedia ts m) :
    (remote.filterMap (remoteSection order ts inc)).filterMap (·.transceiverMid) =
      ((remote.filter isRetained).filter isMediaSection).filterMap getMidValue := by
  rw [List.filterMap_filterMap, List.filterMap_filter, List.filterMap_filter]
  refine List.filterMap_congr fun media hm => ?_
  rcases remoteSection_cases order inc (h media hm) with ⟨hR, hS⟩ | ⟨v, hMid, hApp, hS⟩ |
    ⟨v, r, hMid, hKind, hr, hS⟩
  · simp [hR, hS]
  · simp [hS, hMid, hApp, isRetained, isMediaSection, MediaSection.transceiverMid]
  · simp [hS, hMid, hKind, (findTransceiver_some hr).2.1, isRetained, MediaSection.transceiverMid]

private theorem kept_any (h : ∀ m ∈ remote, ¬RejectsMedia ts m) :
    (remote.filterMap (remoteSection order ts inc)).any (·.transceiver.isNone) =
      (remote.filter isRetained).any (·.mediaName.media = mediaSectionApplication) := by
  induction remote with
  | nil => rfl
  | cons media rest ih =>
    rw [List.forall_mem_cons] at h
    rcases remoteSection_cases order inc h.1 with ⟨hR, hS⟩ | ⟨v, hMid, hApp, hS⟩ |
      ⟨v, r, hMid, hKind, -, hS⟩
    · simp [hR, hS, ih h.2]
    · simp [hS, hMid, hApp, isRetained]
    · simp [hS, hMid, (isMediaSection_iff.mp hKind).1, hKind, isRetained, ih h.2]

/-- The retained remote sections become, one for one and in order, the sections
`remoteSection` gives for them. -/
theorem retained_remoteSections (h : ∀ m ∈ remote, ¬RejectsMedia ts m) :
    List.Forall₂ (fun media s => remoteSection order ts inc media = some s) (remote.filter isRetained)
      (remote.filterMap (remoteSection order ts inc)) := by
  induction remote with
  | nil => exact .nil
  | cons media rest ih =>
    rw [List.forall_mem_cons] at h
    rcases remoteSection_cases order inc h.1 with ⟨hR, hS⟩ | ⟨v, hMid, hApp, hS⟩ |
      ⟨v, r, hMid, hKind, -, hS⟩
    · simpa [hR, hS] using ih h.2
    · simpa [hS, hMid, hApp, isRetained] using ih h.2
    · simpa [hS, hMid, hKind, isRetained] using ih h.2

/-- An answer's sections are those of the remote sections, in order. -/
theorem matchedSections_answer : matchedSections order remote ts false = remote.filterMap (remoteSection order ts false) :=
  rfl

/-- The matcher's sections begin with those of the remote sections, in order. -/
theorem matchedSections_starts_with_remote :
    remote.filterMap (remoteSection order ts inc) <+: matchedSections order remote ts inc := by
  unfold matchedSections
  cases inc
  · exact List.prefix_refl _
  · simp only [if_true]
    split
    · exact List.prefix_append _ _
    · exact (List.prefix_append _ _).trans (List.prefix_append _ _)

/-- A relation that holds between each element and its image lifts from a list to the
images at its indices. -/
theorem forall₂_enumFrom_map {α β γ : Type} {R : α → β → Prop} {P : α → γ → Prop}
    {g : Nat → β → γ} (hg : ∀ a b i, R a b → P a (g i b)) {l₁ : List α} {l₂ : List β} (n : Nat)
    (h : List.Forall₂ R l₁ l₂) : List.Forall₂ P l₁ ((l₂.enumFrom n).map fun p => g p.1 p.2) := by
  induction h generalizing n with
  | nil => exact .nil
  | cons hab _ ih => exact .cons (hg _ _ _ hab) (ih (n + 1))

/-- The unmatched pass adds, in order, one media section per transceiver whose mid was
not matched. -/
theorem appendUnmatched_plan (matched : List String) (i : Nat) (ts : List RTCRtpTransceiver) :
    (appendUnmatched matched i ts).2.map MediaSection.plan =
      (ts.filter (·.mid ∉ matched)).map (⟨false, ·.mid⟩) := by
  induction ts generalizing i with
  | nil => rfl
  | cons t rest ih =>
    by_cases ht : t.mid ∈ matched <;> simp [appendUnmatched, ht, ih, MediaSection.plan]

/-- The matcher refines the spec's section list: when it rejects no remote section, its
sections are, in order, the spec's, data sections and mids included. -/
theorem matchedSections_plan (h : ∀ m ∈ remote, ¬RejectsMedia ts m) :
    (matchedSections order remote ts inc).map MediaSection.plan = sectionPlan remote ts inc := by
  unfold matchedSections sectionPlan
  cases inc
  · exact kept_plan h
  · have hKept := congrArg List.length (@kept_plan order ts true remote h)
    have hUnmatched := congrArg List.length
      (appendUnmatched_plan (((remote.filter isRetained).filter isMediaSection).filterMap getMidValue) 0 ts)
    rw [List.length_map] at hKept hUnmatched
    simp only [if_true, kept_mids h, kept_any h]
    split
    · rw [List.map_append, kept_plan h, appendUnmatched_plan]
    · rw [List.map_append, List.map_append, kept_plan h, appendUnmatched_plan, List.length_append, hKept,
        hUnmatched]
      rfl

private theorem mem_mediaMids {x : String} :
    x ∈ ((remote.filter isRetained).filter isMediaSection).filterMap getMidValue ↔
      ∃ m ∈ remote, isMediaSection m = true ∧ getMidValue m = some x := by
  simp only [List.mem_filterMap, List.mem_filter]
  constructor
  · rintro ⟨m, ⟨⟨hm, -⟩, hKind⟩, hMid⟩
    exact ⟨m, hm, hKind, hMid⟩
  · rintro ⟨m, hm, hKind, hMid⟩
    exact ⟨m, ⟨⟨hm, by simp [isRetained, hMid, hKind]⟩, hKind⟩, hMid⟩

/-- The sections the matcher builds reference, as transceivers, the remote sections'
kept transceivers and, for an offer, the unmatched ones; the synthetic section none. -/
theorem matchedSections_transceivers :
    (matchedSections order remote ts inc).filterMap (·.transceiver) =
      (remote.filterMap (remoteSection order ts inc)).filterMap (·.transceiver) ++
        if inc then
          (appendUnmatched ((remote.filterMap (remoteSection order ts inc)).filterMap (·.transceiverMid)) 0
            ts).2.filterMap (·.transceiver)
        else [] := by
  unfold matchedSections
  cases inc
  · simp
  · simp only [if_true]
    split <;> simp

/-- Every section the matcher builds is a data section exactly when it has no
transceiver. -/
theorem matchedSections_wellFormed (h : ∀ m ∈ remote, ¬RejectsMedia ts m) :
    ∀ s ∈ matchedSections order remote ts inc, s.data = true ↔ s.transceiver = none := by
  have hKept : ∀ s ∈ remote.filterMap (remoteSection order ts inc), s.data = true ↔ s.transceiver = none := by
    intro s hs
    obtain ⟨media, hm, hS⟩ := List.mem_filterMap.mp hs
    rcases remoteSection_cases order inc (h media hm) with ⟨-, hNone⟩ | ⟨v, -, -, hSome⟩ |
      ⟨v, r, -, -, -, hSome⟩
    · simp [hNone] at hS
    all_goals (rw [hSome] at hS; cases hS; simp)
  have hUnmatched : ∀ matched s, s ∈ (appendUnmatched matched 0 ts).2 →
      (s.data = true ↔ s.transceiver = none) := by
    intro matched s hs
    obtain ⟨j, t, -, -, rfl⟩ := mem_appendUnmatched hs
    simp
  intro s hs
  unfold matchedSections at hs
  cases inc
  · exact hKept s hs
  · simp only [if_true] at hs
    split at hs <;> simp only [List.mem_append, List.mem_singleton] at hs
    · exact hs.elim (hKept s) (hUnmatched _ s)
    · rcases hs with (hs | hs) | rfl
      exacts [hKept s hs, hUnmatched _ s hs, by simp]

private theorem kept_references (h : ∀ m ∈ remote, ¬RejectsMedia ts m) (P : RTCRtpTransceiver → Prop) :
    (∃ r ∈ (remote.filterMap (remoteSection order ts inc)).filterMap (·.transceiver), P r.transceiver) ↔
      ∃ m ∈ remote, ∃ v r, getMidValue m = some v ∧ isMediaSection m = true ∧
        findTransceiver v 0 ts = some r ∧ P r.transceiver := by
  simp only [List.filterMap_filterMap, List.mem_filterMap]
  constructor
  · rintro ⟨r, ⟨m, hm, hS⟩, hP⟩
    rcases remoteSection_cases order inc (h m hm) with ⟨-, hNone⟩ | ⟨v, -, -, hData⟩ |
      ⟨v, r', hMid, hKind, hFind, hT⟩
    · simp [hNone] at hS
    · simp [hData] at hS
    · simp only [hT, Option.some_bind, Option.some.injEq] at hS
      exact ⟨m, hm, v, r, hMid, hKind, hS ▸ hFind, hP⟩
  · rintro ⟨m, hm, v, r, hMid, hKind, hFind, hP⟩
    rcases remoteSection_cases order inc (h m hm) with ⟨hR, -⟩ | ⟨v', -, hApp, -⟩ |
      ⟨v', r', hMid', -, hFind', hT⟩
    · simp [isRetained, hMid, hKind] at hR
    · exact absurd hApp (isMediaSection_iff.mp hKind).1
    · rw [hMid, Option.some.injEq] at hMid'
      subst hMid'
      rw [hFind, Option.some.injEq] at hFind'
      subst hFind'
      exact ⟨r, ⟨m, hm, by simp [hT]⟩, hP⟩

/-- The unmatched pass references exactly the transceivers whose mid is not matched,
through any property of them. -/
theorem appendUnmatched_references {matched : List String} (P : RTCRtpTransceiver → Prop) :
    (∃ r ∈ (appendUnmatched matched 0 ts).2.filterMap (·.transceiver), P r.transceiver) ↔
      ∃ t ∈ ts, t.mid ∉ matched ∧ P t := by
  simp only [List.mem_filterMap]
  constructor
  · rintro ⟨r, ⟨s, hs, hr⟩, hP⟩
    obtain ⟨j, t, ht, hNot, rfl⟩ := mem_appendUnmatched hs
    cases hr
    exact ⟨t, ht, hNot, hP⟩
  · rintro ⟨t, ht, hNot, hP⟩
    obtain ⟨j, hj⟩ := appendUnmatched_complete (i := 0) ht hNot
    exact ⟨⟨j, t⟩, ⟨_, hj, rfl⟩, hP⟩

/-- The transceivers the matcher's sections reference, through any property of them:
the first transceiver on each retained media section's mid, and, for an offer, each
transceiver whose mid is no retained media section's. -/
theorem matchedSections_references (h : ∀ m ∈ remote, ¬RejectsMedia ts m) (P : RTCRtpTransceiver → Prop) :
    (∃ r ∈ (matchedSections order remote ts inc).filterMap (·.transceiver), P r.transceiver) ↔
      (∃ m ∈ remote, ∃ v r, getMidValue m = some v ∧ isMediaSection m = true ∧
        findTransceiver v 0 ts = some r ∧ P r.transceiver) ∨
      (inc = true ∧ ∃ t ∈ ts,
        (∀ m ∈ remote, isMediaSection m = true → getMidValue m ≠ some t.mid) ∧ P t) := by
  rw [matchedSections_transceivers]
  cases inc
  · simp only [Bool.false_eq_true, if_false, List.append_nil, false_and, or_false]
    exact kept_references h P
  · simp only [if_true, List.mem_append, or_and_right, exists_or, kept_references h, true_and, kept_mids h,
      appendUnmatched_references, mem_mediaMids, not_exists, not_and]

/-- Among the matcher's sections, the invalid ones are those whose transceiver has a
track to send and no codec. -/
theorem matchedSections_invalid (h : ∀ m ∈ remote, ¬RejectsMedia ts m) :
    (∃ s ∈ matchedSections order remote ts inc, s.Invalid) ↔
      ∃ r ∈ (matchedSections order remote ts inc).filterMap (·.transceiver),
        r.transceiver.codecs = [] ∧ r.transceiver.sender.track.isSome := by
  simp only [List.mem_filterMap]
  constructor
  · rintro ⟨s, hs, hInvalid⟩
    obtain ⟨r, hr, hP⟩ := (MediaSection.invalid_iff (matchedSections_wellFormed h s hs)).mp hInvalid
    exact ⟨r, ⟨s, hs, hr⟩, hP⟩
  · rintro ⟨r, ⟨s, hs, hr⟩, hP⟩
    exact ⟨s, hs, (MediaSection.invalid_iff (matchedSections_wellFormed h s hs)).mpr ⟨r, hr, hP⟩⟩

/-- The unmatched pass references each transceiver by its slice position. -/
theorem appendUnmatched_positions (matched : List String) (i : Nat) (ts : List RTCRtpTransceiver) :
    ∀ r ∈ (appendUnmatched matched i ts).2.filterMap (·.transceiver),
      i ≤ r.index ∧ ts[r.index - i]? = some r.transceiver := by
  induction ts generalizing i with
  | nil => simp [appendUnmatched]
  | cons t rest ih =>
    intro r hr
    have hRest : r ∈ (appendUnmatched matched (i + 1) rest).2.filterMap (·.transceiver) →
        i ≤ r.index ∧ (t :: rest)[r.index - i]? = some r.transceiver := fun h' => by
      obtain ⟨hLe, hGet⟩ := ih (i + 1) r h'
      refine ⟨by omega, ?_⟩
      rw [show r.index - i = r.index - (i + 1) + 1 by omega, List.getElem?_cons_succ]
      exact hGet
    by_cases ht : t.mid ∈ matched
    · simp only [appendUnmatched, ht, if_true] at hr
      exact hRest hr
    · simp only [appendUnmatched, ht, if_false, List.filterMap_cons, List.mem_cons] at hr
      rcases hr with rfl | hr
      · exact ⟨le_refl i, by rw [Nat.sub_self, List.getElem?_cons_zero]⟩
      · exact hRest hr

/-- Every transceiver a matched section references sits at the position it records. -/
theorem matchedSections_positions (h : ∀ m ∈ remote, ¬RejectsMedia ts m) :
    ∀ r ∈ (matchedSections order remote ts inc).filterMap (·.transceiver), ts[r.index]? = some r.transceiver := by
  intro r hr
  rw [matchedSections_transceivers, List.mem_append] at hr
  rcases hr with hr | hr
  · simp only [List.filterMap_filterMap, List.mem_filterMap] at hr
    obtain ⟨m, hm, hS⟩ := hr
    rcases remoteSection_cases order inc (h m hm) with ⟨-, hNone⟩ | ⟨v, -, -, hData⟩ |
      ⟨v, r', -, -, hFind, hT⟩
    · simp [hNone] at hS
    · simp [hData] at hS
    · simp only [hT, Option.some_bind, Option.some.injEq] at hS
      subst hS
      simpa using (findTransceiver_some hFind).2.2.2
  · split at hr
    · simpa using appendUnmatched_positions _ 0 ts r hr
    · cases hr

private theorem keptUnmatched_ids_nodup (h : ∀ m ∈ remote, ¬RejectsMedia ts m)
    (hRemote : (remote.filterMap getMidValue).Nodup) (hLocal : (ts.map (·.mid)).Nodup)
    (hApp : ∀ t ∈ ts, ∀ m ∈ remote,
      m.mediaName.media = mediaSectionApplication → getMidValue m ≠ some t.mid) :
    ((remote.filterMap (remoteSection order ts inc)).map (·.id) ++
      (appendUnmatched ((remote.filterMap (remoteSection order ts inc)).filterMap (·.transceiverMid)) 0 ts).2.map
        (·.id)).Nodup := by
  have hKeptIds : (remote.filterMap (remoteSection order ts inc)).map (·.id) =
      (remote.filter isRetained).filterMap getMidValue := by
    simpa [List.map_filterMap, MediaSection.plan, Function.comp_def] using
      congrArg (List.map PlannedSection.mid) (@kept_plan order ts inc remote h)
  have hUnmatchedIds : ∀ matched, (appendUnmatched matched 0 ts).2.map (·.id) =
      (ts.filter (·.mid ∉ matched)).map (·.mid) := fun matched => by
    simpa [MediaSection.plan, Function.comp_def] using
      congrArg (List.map PlannedSection.mid) (appendUnmatched_plan matched 0 ts)
  rw [hKeptIds, hUnmatchedIds, kept_mids h, List.nodup_append]
  refine ⟨hRemote.sublist ((List.filter_sublist remote).filterMap _),
    hLocal.sublist ((List.filter_sublist ts).map _), fun x hKept hUnmatched => ?_⟩
  obtain ⟨m, hm, hMid⟩ := List.mem_filterMap.mp hKept
  obtain ⟨t, ht, rfl⟩ := List.mem_map.mp hUnmatched
  rw [List.mem_filter] at hm ht
  have hFree : t.mid ∉ ((remote.filter isRetained).filter isMediaSection).filterMap getMidValue :=
    of_decide_eq_true ht.2
  by_cases hKind : isMediaSection m
  · exact hFree (mem_mediaMids.mpr ⟨m, hm.1, hKind, hMid⟩)
  · have hIsApp : (getMidValue m).isSome ∧ m.mediaName.media = mediaSectionApplication := by
      simpa [isRetained, hKind] using hm.2
    exact hApp t ht.1 m hm.1 hIsApp.2 hMid

/-- With distinct remote mids, distinct local mids and no local mid on a remote
application section, the matcher's sections have pairwise distinct ids, except that an
offer may end with the synthetic data section, named by the count of those before it. -/
theorem matchedSections_ids (h : ∀ m ∈ remote, ¬RejectsMedia ts m)
    (hRemote : (remote.filterMap getMidValue).Nodup) (hLocal : (ts.map (·.mid)).Nodup)
    (hApp : ∀ t ∈ ts, ∀ m ∈ remote,
      m.mediaName.media = mediaSectionApplication → getMidValue m ≠ some t.mid) :
    ∃ pre : List MediaSection, (pre.map (·.id)).Nodup ∧
      (matchedSections order remote ts inc = pre ∨
        inc = true ∧
          matchedSections order remote ts inc = pre ++ [{ id := toString pre.length, data := true }]) := by
  have hNodup := @keptUnmatched_ids_nodup order ts inc remote h hRemote hLocal hApp
  unfold matchedSections
  cases inc
  · exact ⟨_, (List.nodup_append.mp hNodup).1, .inl rfl⟩
  · simp only [if_true]
    rw [← List.map_append] at hNodup
    split
    · exact ⟨_, hNodup, .inl rfl⟩
    · exact ⟨_, hNodup, .inr ⟨trivial, rfl⟩⟩

end Plan

end Sfu
