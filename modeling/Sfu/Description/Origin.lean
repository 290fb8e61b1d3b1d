import Sfu.Sdp.Description

/-! `update_sdp_origin`, the single-writer transition on the stored `o=` line state, and
runs of it over a sequence of emitted descriptions. The counters are `u64`; `+=` wraps
as in a release build. -/
namespace Sfu

open Sdp

/-- `update_sdp_origin`: while the stored version is 0 it stores the description's
origin; afterwards it copies the stored session id into the description and adds one to
the stored version and to the description's own version. -/
def updateSdpOrigin (origin : Origin) (d : SessionDescription) : Origin × SessionDescription :=
  if origin.sessionVersion = 0 then
    ({ sessionVersion := d.origin.sessionVersion, sessionId := d.origin.sessionId }, d)
  else
    ({ origin with sessionVersion := origin.sessionVersion + 1 },
      { d with origin := { sessionId := origin.sessionId, sessionVersion := d.origin.sessionVersion + 1 } })

/-- The descriptions emitted, in turn, through one stored origin. -/
def updateSdpOrigins : Origin → List SessionDescription → Origin × List SessionDescription
  | origin, [] => (origin, [])
  | origin, d :: rest =>
    let (origin, d) := updateSdpOrigin origin d
    let (origin, emitted) := updateSdpOrigins origin rest
    (origin, d :: emitted)

private theorem toNat_add_one (x : UInt64) : (x + 1).toNat = (x.toNat + 1) % UInt64.size := rfl

/-- The first call from the default origin stores the description's and emits it as is. -/
theorem updateSdpOrigin_default (d : SessionDescription) :
    updateSdpOrigin default d = (d.origin, d) := rfl

/-- Once a version is stored, a call keeps the stored session id, bumps the stored
version, and bumps the description's own version, not the stored one. -/
theorem updateSdpOrigin_stored {origin : Origin} (h : origin.sessionVersion ≠ 0) (d : SessionDescription) :
    updateSdpOrigin origin d =
      ({ origin with sessionVersion := origin.sessionVersion + 1 },
        { d with origin := ⟨origin.sessionId, d.origin.sessionVersion + 1⟩ }) := by
  simp [updateSdpOrigin, h]

/-- Over a run that does not wrap the stored version: the session id never changes, the
stored version counts the calls, and every description leaves with its own version plus
one. -/
theorem updateSdpOrigins_stored {origin : Origin} (h : origin.sessionVersion ≠ 0)
    (ds : List SessionDescription) (hBound : origin.sessionVersion.toNat + ds.length < UInt64.size) :
    (updateSdpOrigins origin ds).1.sessionId = origin.sessionId ∧
      (updateSdpOrigins origin ds).1.sessionVersion.toNat = origin.sessionVersion.toNat + ds.length ∧
      (updateSdpOrigins origin ds).2 =
        ds.map (fun d => { d with origin := ⟨origin.sessionId, d.origin.sessionVersion + 1⟩ }) := by
  induction ds generalizing origin with
  | nil => simp [updateSdpOrigins]
  | cons d rest ih =>
    have hNext : (origin.sessionVersion + 1).toNat = origin.sessionVersion.toNat + 1 := by
      simp only [List.length_cons] at hBound
      rw [toNat_add_one, Nat.mod_eq_of_lt (by omega)]
    have hNonzero : origin.sessionVersion + 1 ≠ 0 := fun h0 => by
      simp [h0] at hNext
    obtain ⟨hId, hVersion, hEmitted⟩ :=
      @ih { origin with sessionVersion := origin.sessionVersion + 1 } hNonzero
        (by show (origin.sessionVersion + 1).toNat + rest.length < UInt64.size
            simp only [List.length_cons] at hBound; omega)
    simp only [updateSdpOrigins, updateSdpOrigin_stored h]
    refine ⟨hId, ?_, by simp [hEmitted]⟩
    simp only [List.length_cons] at hVersion ⊢
    omega

/-- A run from `Origin::default()`: every description takes the first one's session id,
the first is emitted unchanged, and each later one with its own version plus one. -/
theorem updateSdpOrigins_default (d : SessionDescription) (ds : List SessionDescription)
    (h : d.origin.sessionVersion ≠ 0) (hBound : d.origin.sessionVersion.toNat + ds.length < UInt64.size) :
    (updateSdpOrigins default (d :: ds)).2 =
      d :: ds.map (fun e => { e with origin := ⟨d.origin.sessionId, e.origin.sessionVersion + 1⟩ }) ∧
      (updateSdpOrigins default (d :: ds)).1.sessionVersion.toNat =
        d.origin.sessionVersion.toNat + ds.length := by
  simp only [updateSdpOrigins, updateSdpOrigin_default]
  exact ⟨by rw [(updateSdpOrigins_stored h ds hBound).2.2], (updateSdpOrigins_stored h ds hBound).2.1⟩

/-- Three descriptions with versions 5, 100 and 9 after the default origin. -/
theorem updateSdpOrigins_default_three :
    (⟨⟨7, 5⟩, [], []⟩ : SessionDescription).origin.sessionVersion ≠ 0 ∧
      (⟨⟨7, 5⟩, [], []⟩ : SessionDescription).origin.sessionVersion.toNat + 2 < UInt64.size ∧
      (updateSdpOrigins default [⟨⟨7, 5⟩, [], []⟩, ⟨⟨3, 100⟩, [], []⟩, ⟨⟨4, 9⟩, [], []⟩]).2 =
        ⟨⟨7, 5⟩, [], []⟩ :: [(⟨⟨3, 100⟩, [], []⟩ : SessionDescription), ⟨⟨4, 9⟩, [], []⟩].map
          (fun e => { e with origin := ⟨7, e.origin.sessionVersion + 1⟩ }) ∧
      (updateSdpOrigins default [⟨⟨7, 5⟩, [], []⟩, ⟨⟨3, 100⟩, [], []⟩, ⟨⟨4, 9⟩, [], []⟩]).1.sessionVersion.toNat =
        (⟨⟨7, 5⟩, [], []⟩ : SessionDescription).origin.sessionVersion.toNat + 2 :=
  ⟨by decide, by decide, updateSdpOrigins_default ⟨⟨7, 5⟩, [], []⟩ _ (by decide) (by decide)⟩

/-- Two descriptions with versions 5 and 100 after the default origin: the second leaves
with version 101 where the stored version is 6. -/
theorem updateSdpOrigins_second_version_follows_description :
    updateSdpOrigins default [⟨⟨7, 5⟩, [], []⟩, ⟨⟨3, 100⟩, [], []⟩] =
      (⟨7, 6⟩, [⟨⟨7, 5⟩, [], []⟩, ⟨⟨7, 101⟩, [], []⟩]) := rfl

end Sfu
