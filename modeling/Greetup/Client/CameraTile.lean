import Mathlib.Data.Finset.Card
import Mathlib.Data.List.Dedup
import Mathlib.Tactic.Common

/-!
The camera tile of a participant: which of the video tracks of a stream is shown
on it.

The tracks are narrowed down by one filter after the other, and a filter that
would leave nothing is not applied at all.
-/

namespace Greetup.Client.CameraTile

/-! ### Streams -/

inductive TrackKind
  | audio
  | video
  deriving DecidableEq

structure TrackSettings where
  displaySurface : Option String := none
  width : Option ℕ := none
  height : Option ℕ := none
  deriving DecidableEq

structure MediaStreamTrack where
  id : String
  kind : TrackKind
  muted : Bool := false
  /-- `none` where `getSettings` throws -/
  getSettings : Option TrackSettings := some {}
  deriving DecidableEq

structure MediaStream where
  tracks : List MediaStreamTrack
  nodup : tracks.Nodup

namespace MediaStream

/-- `new MediaStream(tracks)` -/
def ofTracks (tracks : List MediaStreamTrack) : MediaStream := ⟨tracks.dedup, tracks.nodup_dedup⟩

variable (stream : MediaStream)

def getAudioTracks : List MediaStreamTrack := stream.tracks.filter (·.kind = .audio)

def getVideoTracks : List MediaStreamTrack := stream.tracks.filter (·.kind = .video)

end MediaStream

inductive ProducerMediaSource
  | camera
  | screen
  deriving DecidableEq

/-! ### What a track shows -/

/-- The browser reports a captured display surface. -/
def inferScreenCaptureFromTrack (track : MediaStreamTrack) : Bool :=
  track.kind = .video && track.getSettings.any fun settings =>
    settings.displaySurface = some "monitor" || settings.displaySurface = some "window" ||
      settings.displaySurface = some "browser"

def inboundVideoTrackIsSfuScreenShare (track : MediaStreamTrack)
    (signaled : Option ProducerMediaSource) : Bool :=
  if track.kind ≠ .video then false
  else
    match signaled with
    | some .screen => true
    | some .camera => false
    | none => inferScreenCaptureFromTrack track

def trackEligibleForParticipantCameraTile (track : MediaStreamTrack)
    (signaled : Option ProducerMediaSource) : Bool :=
  if track.kind ≠ .video then false
  else
    match signaled with
    | some .screen => false
    | some .camera => true
    | none => !inferScreenCaptureFromTrack track

def videoTrackPixelArea (track : MediaStreamTrack) : ℕ :=
  match track.getSettings with
  | none => 0
  | some settings => settings.width.getD 0 * settings.height.getD 0

/-! ### The picker -/

/-- `kept.length > 0 ? kept : all` for the tracks that a filter keeps. -/
def keptOrAll (keeps : MediaStreamTrack → Bool) (all : List MediaStreamTrack) :
    List MediaStreamTrack :=
  if 0 < (all.filter keeps).length then all.filter keeps else all

section Picker

variable (localeCompare : String → String → ℤ)
  (remoteTrackMediaSource : String → Option ProducerMediaSource)

/-- Unmuted first, then the smaller frame. -/
def compareForCameraTile (a b : MediaStreamTrack) : ℤ :=
  if a.muted ≠ b.muted then (a.muted.toNat : ℤ) - b.muted.toNat
  else if videoTrackPixelArea a ≠ videoTrackPixelArea b then
    (videoTrackPixelArea a : ℤ) - videoTrackPixelArea b
  else localeCompare a.id b.id

def sortVideoTracksForCameraTileWithAreaTieBreak (tracks : List MediaStreamTrack) :
    List MediaStreamTrack :=
  tracks.mergeSort fun a b => compareForCameraTile localeCompare a b ≤ 0

def firstForCameraTile (tracks : List MediaStreamTrack) : Option MediaStreamTrack :=
  (sortVideoTracksForCameraTileWithAreaTieBreak localeCompare tracks)[0]?

def notTaggedScreen (track : MediaStreamTrack) : Bool :=
  remoteTrackMediaSource track.id ≠ some .screen

def taggedCamera (track : MediaStreamTrack) : Bool :=
  remoteTrackMediaSource track.id = some .camera

/-- Several tracks, and none that the SFU has marked as a camera. -/
def pickUntaggedTrack (work : List MediaStreamTrack) : Option MediaStreamTrack :=
  let notSfuScreen := work.filter fun track =>
    !inboundVideoTrackIsSfuScreenShare track (remoteTrackMediaSource track.id)
  if notSfuScreen.length = 1 then notSfuScreen[0]?
  else if 1 < notSfuScreen.length then
    let tagged := notSfuScreen.filter (taggedCamera remoteTrackMediaSource)
    if 1 ≤ tagged.length then firstForCameraTile localeCompare tagged
    else firstForCameraTile localeCompare
      (keptOrAll (fun track => !inferScreenCaptureFromTrack track) notSfuScreen)
  else firstForCameraTile localeCompare work

def pickPrimaryParticipantCameraVideoTrack (videoTracks : List MediaStreamTrack) :
    Option MediaStreamTrack :=
  if videoTracks.length = 0 then none
  else
    let work := keptOrAll (notTaggedScreen remoteTrackMediaSource) videoTracks
    if work.length = 1 then work[0]?
    else
      let taggedCameras := work.filter (taggedCamera remoteTrackMediaSource)
      if 1 ≤ taggedCameras.length then firstForCameraTile localeCompare
        (keptOrAll (fun track => !inferScreenCaptureFromTrack track) taggedCameras)
      else pickUntaggedTrack localeCompare remoteTrackMediaSource work

/-! ### The tile -/

/-- The tracks that are not reserved for the screen shares; an empty set of
reserved tracks is as good as none. -/
def withoutExcluded (excludeIds : Option (Finset String)) (videos : List MediaStreamTrack) :
    List MediaStreamTrack :=
  match excludeIds with
  | none => videos
  | some excludeIds =>
      if 0 < excludeIds.card then keptOrAll (fun track => track.id ∉ excludeIds) videos else videos

/-- The track that is shown, once there is one. -/
def cameraFrom (videos : List MediaStreamTrack) : Option MediaStreamTrack :=
  let workset := keptOrAll (notTaggedScreen remoteTrackMediaSource) videos
  if workset.length = 1 then workset[0]?
  else pickPrimaryParticipantCameraVideoTrack localeCompare remoteTrackMediaSource
    (keptOrAll (fun track =>
      trackEligibleForParticipantCameraTile track (remoteTrackMediaSource track.id)) workset)

def cameraOnlyParticipantStream (stream : MediaStream) (excludeIds : Option (Finset String)) :
    MediaStream :=
  let audios := stream.getAudioTracks
  let videos := withoutExcluded excludeIds stream.getVideoTracks
  if videos.length = 0 then .ofTracks audios
  else .ofTracks (audios ++ (cameraFrom localeCompare remoteTrackMediaSource videos).toList)

end Picker

/-! ### The tiles of screen shares -/

structure ScreenShareTileInfo where
  peerId : String
  stream : MediaStream

/-- The tracks that one tile adds. -/
def addTileTracks (s : Finset String) (tracks : List MediaStreamTrack) : Finset String :=
  tracks.foldl (fun s track => if track.kind = .video then insert track.id s else s) s

def videoTrackIdsFromScreenShareTilesForPeer (tiles : List ScreenShareTileInfo) (peerId : String) :
    Finset String :=
  tiles.foldl (fun s tile =>
    if tile.peerId ≠ peerId then s else addTileTracks s tile.stream.getVideoTracks) ∅

/-! ### What the tile should be -/

/-- The camera stream `tile` of a participant with all tracks in `stream`. -/
structure ShowsCamera (remoteTrackMediaSource : String → Option ProducerMediaSource)
    (excludeIds : Option (Finset String)) (stream tile : MediaStream) : Prop where
  audio : tile.getAudioTracks = stream.getAudioTracks
  atMostOne : tile.getVideoTracks.length ≤ 1
  own : ∀ track ∈ tile.getVideoTracks, track ∈ stream.getVideoTracks
  notScreen : ∀ track ∈ tile.getVideoTracks,
    remoteTrackMediaSource track.id ≠ some .screen
  notExcluded : ∀ track ∈ tile.getVideoTracks, track.id ∉ excludeIds.getD ∅
  shown : (∃ track ∈ stream.getVideoTracks,
    remoteTrackMediaSource track.id = some .camera ∧ track.id ∉ excludeIds.getD ∅) →
      tile.getVideoTracks ≠ []

/-! ### A filter that falls back -/

section Kept

variable {keeps : MediaStreamTrack → Bool} {all : List MediaStreamTrack} {track : MediaStreamTrack}

theorem mem_of_mem_keptOrAll (h : track ∈ keptOrAll keeps all) : track ∈ all := by
  rw [keptOrAll] at h
  split_ifs at h
  · exact List.mem_of_mem_filter h
  · exact h

theorem keptOrAll_ne_nil (h : all ≠ []) : keptOrAll keeps all ≠ [] := by
  rw [keptOrAll]
  split_ifs with hkept
  · exact List.ne_nil_of_length_pos hkept
  · exact h

/-- If one track is to be kept, only such tracks are left. -/
theorem keeps_of_mem_keptOrAll (hkept : ∃ other ∈ all, keeps other)
    (h : track ∈ keptOrAll keeps all) : keeps track := by
  obtain ⟨other, hmem, hother⟩ := hkept
  have hpos : 0 < (all.filter keeps).length :=
    List.length_pos_of_mem (List.mem_filter.mpr ⟨hmem, hother⟩)
  rw [keptOrAll, if_pos hpos] at h
  exact (List.mem_filter.mp h).2

theorem mem_keptOrAll (hmem : track ∈ all) (h : keeps track) : track ∈ keptOrAll keeps all := by
  have hfilter : track ∈ all.filter keeps := List.mem_filter.mpr ⟨hmem, h⟩
  rw [keptOrAll, if_pos (List.length_pos_of_mem hfilter)]
  exact hfilter

end Kept

/-! ### The picker picks -/

section Picks

variable {localeCompare : String → String → ℤ}
  {remoteTrackMediaSource : String → Option ProducerMediaSource} {tracks : List MediaStreamTrack}

theorem exists_getElem_zero {l : List MediaStreamTrack} (h : l ≠ []) :
    ∃ track ∈ l, l[0]? = some track := by
  cases l with
  | nil => exact absurd rfl h
  | cons track l => exact ⟨track, List.mem_cons_self, rfl⟩

theorem exists_firstForCameraTile (h : tracks ≠ []) :
    ∃ track ∈ tracks, firstForCameraTile localeCompare tracks = some track := by
  have hperm := List.mergeSort_perm tracks
    fun a b => decide (compareForCameraTile localeCompare a b ≤ 0)
  obtain ⟨track, hmem, hfirst⟩ :=
    exists_getElem_zero fun hnil => h (List.perm_nil.mp (hnil ▸ hperm.symm))
  exact ⟨track, hperm.mem_iff.mp hmem, hfirst⟩

theorem exists_pickUntaggedTrack (h : tracks ≠ []) :
    ∃ track ∈ tracks,
      pickUntaggedTrack localeCompare remoteTrackMediaSource tracks = some track := by
  simp only [pickUntaggedTrack]
  generalize hkept : tracks.filter (fun track =>
    !inboundVideoTrackIsSfuScreenShare track (remoteTrackMediaSource track.id)) = kept
  have hsub : ∀ track ∈ kept, track ∈ tracks := by
    subst hkept
    exact fun track => List.mem_of_mem_filter
  split_ifs with hone hmany htagged
  · obtain ⟨track, hmem, hpick⟩ := exists_getElem_zero
      (List.ne_nil_of_length_pos (hone ▸ Nat.one_pos))
    exact ⟨track, hsub track hmem, hpick⟩
  · obtain ⟨track, hmem, hpick⟩ := exists_firstForCameraTile (List.ne_nil_of_length_pos htagged)
    exact ⟨track, hsub track (List.mem_of_mem_filter hmem), hpick⟩
  · have hne : kept ≠ [] := List.ne_nil_of_length_pos (by omega)
    obtain ⟨track, hmem, hpick⟩ := exists_firstForCameraTile (keptOrAll_ne_nil hne)
    exact ⟨track, hsub track (mem_of_mem_keptOrAll hmem), hpick⟩
  · exact exists_firstForCameraTile h

theorem exists_pickPrimary (h : tracks ≠ []) :
    ∃ track ∈ tracks, pickPrimaryParticipantCameraVideoTrack localeCompare remoteTrackMediaSource
      tracks = some track := by
  have hlength : tracks.length ≠ 0 := List.length_eq_zero_iff.not.mpr h
  simp only [pickPrimaryParticipantCameraVideoTrack, if_neg hlength]
  generalize hwork : keptOrAll (notTaggedScreen remoteTrackMediaSource) tracks = work
  have hne : work ≠ [] := hwork ▸ keptOrAll_ne_nil h
  have hsub : ∀ track ∈ work, track ∈ tracks := by
    subst hwork
    exact fun track => mem_of_mem_keptOrAll
  split_ifs with hone htagged
  · obtain ⟨track, hmem, hpick⟩ := exists_getElem_zero hne
    exact ⟨track, hsub track hmem, hpick⟩
  · obtain ⟨track, hmem, hpick⟩ := exists_firstForCameraTile
      (keptOrAll_ne_nil (List.ne_nil_of_length_pos htagged))
    exact ⟨track, hsub track (List.mem_of_mem_filter (mem_of_mem_keptOrAll hmem)), hpick⟩
  · obtain ⟨track, hmem, hpick⟩ := exists_pickUntaggedTrack hne
    exact ⟨track, hsub track hmem, hpick⟩

/-- There is a picture, of a track that the SFU has not marked as a screen if it
can be helped. -/
theorem exists_cameraFrom (h : tracks ≠ []) :
    ∃ track ∈ keptOrAll (notTaggedScreen remoteTrackMediaSource) tracks,
      cameraFrom localeCompare remoteTrackMediaSource tracks = some track := by
  rw [cameraFrom]
  have hne : keptOrAll (notTaggedScreen remoteTrackMediaSource) tracks ≠ [] := keptOrAll_ne_nil h
  split_ifs with hone
  · exact exists_getElem_zero hne
  · obtain ⟨track, hmem, hpick⟩ := exists_pickPrimary (keptOrAll_ne_nil hne)
    exact ⟨track, mem_of_mem_keptOrAll hmem, hpick⟩

end Picks

/-! ### The tracks of a stream -/

section Tracks

variable (stream : MediaStream)

theorem MediaStream.ofTracks_tracks {tracks : List MediaStreamTrack} (h : tracks.Nodup) :
    (MediaStream.ofTracks tracks).tracks = tracks := h.dedup

/-- The audio tracks of a stream, and one of its video tracks or none. -/
theorem nodup_withVideo {video : Option MediaStreamTrack} (hvideo : ∀ t ∈ video, t.kind = .video) :
    (stream.getAudioTracks ++ video.toList).Nodup := by
  refine List.Nodup.append (stream.nodup.filter _) (by cases video <;> simp) ?_
  intro track haudio hmem
  have hkind := of_decide_eq_true (List.mem_filter.mp haudio).2
  rw [hvideo track (Option.mem_toList.mp hmem)] at hkind
  cases hkind

section WithVideo

variable {video : Option MediaStreamTrack} (hvideo : ∀ t ∈ video, t.kind = .video)

include hvideo

theorem getAudioTracks_withVideo :
    (MediaStream.ofTracks (stream.getAudioTracks ++ video.toList)).getAudioTracks =
      stream.getAudioTracks := by
  have hnone : video.toList.filter (·.kind = .audio) = [] := by
    refine List.filter_eq_nil_iff.mpr fun track hmem => ?_
    simp [hvideo track (Option.mem_toList.mp hmem)]
  rw [MediaStream.getAudioTracks, MediaStream.ofTracks_tracks (nodup_withVideo stream hvideo),
    List.filter_append, hnone, List.append_nil, MediaStream.getAudioTracks, List.filter_filter]
  simp

theorem getVideoTracks_withVideo :
    (MediaStream.ofTracks (stream.getAudioTracks ++ video.toList)).getVideoTracks =
      video.toList := by
  have hnone : stream.getAudioTracks.filter (·.kind = .video) = [] := by
    refine List.filter_eq_nil_iff.mpr fun track hmem => ?_
    have hkind := of_decide_eq_true (List.mem_filter.mp hmem).2
    simp [hkind]
  rw [MediaStream.getVideoTracks, MediaStream.ofTracks_tracks (nodup_withVideo stream hvideo),
    List.filter_append, hnone, List.nil_append]
  refine List.filter_eq_self.mpr fun track hmem => ?_
  simp [hvideo track (Option.mem_toList.mp hmem)]

end WithVideo

end Tracks

/-! ### When the tile shows a camera -/

section Tile

variable (localeCompare : String → String → ℤ)
  (remoteTrackMediaSource : String → Option ProducerMediaSource)
  (excludeIds : Option (Finset String)) (stream : MediaStream)

theorem withoutExcluded_eq (videos : List MediaStreamTrack) :
    withoutExcluded excludeIds videos =
      keptOrAll (fun track => track.id ∉ excludeIds.getD ∅) videos := by
  have hall : keptOrAll (fun track => track.id ∉ (∅ : Finset String)) videos = videos := by
    cases videos <;> simp [keptOrAll]
  cases excludeIds with
  | none => exact hall.symm
  | some ids =>
      rw [withoutExcluded]
      split_ifs with hcard
      · rfl
      · cases Finset.card_eq_zero.mp (Nat.eq_zero_of_not_pos hcard)
        exact hall.symm

/-- Neither excluded nor marked as a screen. -/
def Showable (track : MediaStreamTrack) : Prop :=
  track.id ∉ excludeIds.getD ∅ ∧ remoteTrackMediaSource track.id ≠ some .screen

/-- The tile of a participant with video shows one of the tracks, and if it can
be helped one that may be shown. -/
theorem exists_shown {videos : List MediaStreamTrack} (h : videos ≠ []) :
    ∃ track ∈ videos,
      cameraFrom localeCompare remoteTrackMediaSource (withoutExcluded excludeIds videos) =
        some track ∧
      ((∃ other ∈ videos, Showable remoteTrackMediaSource excludeIds other) →
        Showable remoteTrackMediaSource excludeIds track) := by
  rw [withoutExcluded_eq]
  obtain ⟨track, hmem, hcamera⟩ := exists_cameraFrom (keptOrAll_ne_nil h)
  have hkept := mem_of_mem_keptOrAll hmem
  refine ⟨track, mem_of_mem_keptOrAll hkept, hcamera, ?_⟩
  rintro ⟨other, hother, hnot, hscreen⟩
  have hexcluded := keeps_of_mem_keptOrAll ⟨other, hother, decide_eq_true hnot⟩ hkept
  have hleft : other ∈ keptOrAll (fun track => track.id ∉ excludeIds.getD ∅) videos :=
    mem_keptOrAll hother (decide_eq_true hnot)
  have htagged := keeps_of_mem_keptOrAll ⟨other, hleft, decide_eq_true hscreen⟩ hmem
  exact ⟨of_decide_eq_true hexcluded, of_decide_eq_true htagged⟩

variable {excludeIds stream} in
theorem cameraOnlyParticipantStream_of_nil (h : stream.getVideoTracks = []) :
    cameraOnlyParticipantStream localeCompare remoteTrackMediaSource stream excludeIds =
      .ofTracks (stream.getAudioTracks ++ (none : Option MediaStreamTrack).toList) := by
  have hnil : withoutExcluded excludeIds stream.getVideoTracks = [] := by
    rw [withoutExcluded_eq, h, keptOrAll]
    rfl
  simp only [cameraOnlyParticipantStream, hnil]
  simp

variable {excludeIds stream} in
theorem cameraOnlyParticipantStream_of_ne (h : stream.getVideoTracks ≠ []) :
    cameraOnlyParticipantStream localeCompare remoteTrackMediaSource stream excludeIds =
      .ofTracks (stream.getAudioTracks ++ (cameraFrom localeCompare remoteTrackMediaSource
        (withoutExcluded excludeIds stream.getVideoTracks)).toList) := by
  have hne : withoutExcluded excludeIds stream.getVideoTracks ≠ [] := by
    rw [withoutExcluded_eq]
    exact keptOrAll_ne_nil h
  rw [cameraOnlyParticipantStream]
  exact if_neg (List.length_eq_zero_iff.not.mpr hne)

variable {stream} in
/-- What is asked of the tile, by the video track that was picked for it. -/
theorem showsCamera_withVideo_iff {video : Option MediaStreamTrack}
    (hvideo : ∀ t ∈ video, t.kind = .video) :
    ShowsCamera remoteTrackMediaSource excludeIds stream
        (.ofTracks (stream.getAudioTracks ++ video.toList)) ↔
      (∀ track ∈ video, track ∈ stream.getVideoTracks ∧
          Showable remoteTrackMediaSource excludeIds track) ∧
        ((∃ track ∈ stream.getVideoTracks, remoteTrackMediaSource track.id = some .camera ∧
          track.id ∉ excludeIds.getD ∅) → video ≠ none) := by
  have htracks := getVideoTracks_withVideo stream hvideo
  constructor
  · rintro ⟨-, -, hown, hscreen, hexcluded, hshown⟩
    rw [htracks] at hown hscreen hexcluded hshown
    refine ⟨fun track htrack => ?_, fun hcamera hnone => hshown hcamera (by rw [hnone]; rfl)⟩
    have hmem := Option.mem_toList.mpr htrack
    exact ⟨hown track hmem, hexcluded track hmem, hscreen track hmem⟩
  · rintro ⟨hshowable, hshown⟩
    have htrack (track : MediaStreamTrack) (hmem : track ∈ video.toList) :=
      hshowable track (Option.mem_toList.mp hmem)
    refine ⟨getAudioTracks_withVideo stream hvideo, ?_, ?_, ?_, ?_, ?_⟩
    all_goals rw [htracks]
    · cases video <;> simp
    · exact fun track hmem => (htrack track hmem).1
    · exact fun track hmem => (htrack track hmem).2.2
    · exact fun track hmem => (htrack track hmem).2.1
    · exact fun hcamera hnil => hshown hcamera (Option.toList_eq_nil_iff.mp hnil)

variable {remoteTrackMediaSource excludeIds stream}

/-- With video, what is asked of the tile comes down to the one track that is
picked. -/
theorem showsCamera_cameraOnly (hne : stream.getVideoTracks ≠ []) :
    ∃ track ∈ stream.getVideoTracks,
      (ShowsCamera remoteTrackMediaSource excludeIds stream
          (cameraOnlyParticipantStream localeCompare remoteTrackMediaSource stream excludeIds) ↔
        Showable remoteTrackMediaSource excludeIds track) ∧
      ((∃ other ∈ stream.getVideoTracks, Showable remoteTrackMediaSource excludeIds other) →
        Showable remoteTrackMediaSource excludeIds track) := by
  obtain ⟨track, hmem, hcamera, hshowable⟩ :=
    exists_shown localeCompare remoteTrackMediaSource excludeIds hne
  have hkind : ∀ t ∈ some track, t.kind = .video := by
    rintro t ⟨⟩
    exact of_decide_eq_true (List.mem_filter.mp hmem).2
  refine ⟨track, hmem, ?_, hshowable⟩
  rw [cameraOnlyParticipantStream_of_ne localeCompare remoteTrackMediaSource hne, hcamera,
    showsCamera_withVideo_iff remoteTrackMediaSource excludeIds hkind]
  constructor
  · exact fun h => (h.1 track rfl).2
  · intro h
    refine ⟨?_, fun _ => Option.some_ne_none track⟩
    rintro t ⟨⟩
    exact ⟨hmem, h⟩

theorem showsCamera_of_nil (hnil : stream.getVideoTracks = []) :
    ShowsCamera remoteTrackMediaSource excludeIds stream
      (cameraOnlyParticipantStream localeCompare remoteTrackMediaSource stream excludeIds) := by
  have hnone : ∀ t ∈ (none : Option MediaStreamTrack), t.kind = .video := by simp
  rw [cameraOnlyParticipantStream_of_nil localeCompare remoteTrackMediaSource hnil,
    showsCamera_withVideo_iff remoteTrackMediaSource excludeIds hnone]
  simp [hnil]

theorem showsCamera_of_showable
    (h : ∃ track ∈ stream.getVideoTracks, Showable remoteTrackMediaSource excludeIds track) :
    ShowsCamera remoteTrackMediaSource excludeIds stream
      (cameraOnlyParticipantStream localeCompare remoteTrackMediaSource stream excludeIds) := by
  obtain ⟨other, hother, -⟩ := id h
  obtain ⟨track, -, hiff, hshowable⟩ := showsCamera_cameraOnly localeCompare
    (List.ne_nil_of_mem hother)
  exact hiff.mpr (hshowable h)

variable (remoteTrackMediaSource excludeIds stream) in
/-- **A camera tile never shows a shared screen**, nor any other track that it
should not, if and only if there is no video at all or a track that may be
shown. -/
theorem cameraOnlyParticipantStream_iff :
    ShowsCamera remoteTrackMediaSource excludeIds stream
        (cameraOnlyParticipantStream localeCompare remoteTrackMediaSource stream excludeIds) ↔
      stream.getVideoTracks = [] ∨
        ∃ track ∈ stream.getVideoTracks, Showable remoteTrackMediaSource excludeIds track := by
  constructor
  · intro h
    by_cases hnil : stream.getVideoTracks = []
    · exact .inl hnil
    · obtain ⟨track, hmem, hiff, -⟩ := showsCamera_cameraOnly localeCompare hnil
      exact .inr ⟨track, hmem, hiff.mp h⟩
  · rintro (hnil | hshowable)
    · exact showsCamera_of_nil localeCompare hnil
    · exact showsCamera_of_showable localeCompare hshowable

end Tile

/-! ### The tracks of the screen shares -/

section Tiles

variable {s : Finset String} {id peerId : String}

theorem mem_addTileTracks {tracks : List MediaStreamTrack} :
    id ∈ addTileTracks s tracks ↔
      id ∈ s ∨ ∃ track ∈ tracks, track.kind = .video ∧ track.id = id := by
  induction tracks generalizing s with
  | nil => simp [addTileTracks]
  | cons track tracks ih =>
      rw [addTileTracks, List.foldl_cons, ← addTileTracks, ih]
      split_ifs with hkind
      · simp only [Finset.mem_insert, List.mem_cons, exists_eq_or_imp, hkind, true_and]
        rw [or_assoc, or_left_comm, eq_comm (a := id)]
      · simp [hkind]

theorem mem_videoTrackIds_aux {tiles : List ScreenShareTileInfo} :
    id ∈ tiles.foldl (fun s tile =>
        if tile.peerId ≠ peerId then s else addTileTracks s tile.stream.getVideoTracks) s ↔
      id ∈ s ∨ ∃ tile ∈ tiles, tile.peerId = peerId ∧
        ∃ track ∈ tile.stream.getVideoTracks, track.id = id := by
  induction tiles generalizing s with
  | nil => simp
  | cons tile tiles ih =>
      have hkind (track : MediaStreamTrack) (h : track ∈ tile.stream.getVideoTracks) :
          track.kind = .video := of_decide_eq_true (List.mem_filter.mp h).2
      rw [List.foldl_cons, ih]
      split_ifs with hpeer
      · simp [hpeer]
      · rw [mem_addTileTracks, or_assoc]
        have hpeer := not_not.mp hpeer
        simp only [List.mem_cons, exists_eq_or_imp, hpeer, true_and]
        have htracks : (∃ track ∈ tile.stream.getVideoTracks, track.kind = .video ∧ track.id = id) ↔
            ∃ track ∈ tile.stream.getVideoTracks, track.id = id :=
          exists_congr fun track => and_congr_right fun h => and_iff_right (hkind track h)
        rw [htracks]

/-- The video tracks of the tiles of a peer. -/
theorem mem_videoTrackIdsFromScreenShareTilesForPeer {tiles : List ScreenShareTileInfo} :
    id ∈ videoTrackIdsFromScreenShareTilesForPeer tiles peerId ↔
      ∃ tile ∈ tiles, tile.peerId = peerId ∧
        ∃ track ∈ tile.stream.getVideoTracks, track.id = id := by
  rw [videoTrackIdsFromScreenShareTilesForPeer, mem_videoTrackIds_aux]
  simp

/-- As long as another track may be shown, what is on the tiles of a peer is not
on the camera tile too. -/
theorem cameraOnlyParticipantStream_avoids_tiles (localeCompare : String → String → ℤ)
    {remoteTrackMediaSource : String → Option ProducerMediaSource} {stream : MediaStream}
    {tiles : List ScreenShareTileInfo} {excludeIds : Option (Finset String)}
    (htiles : excludeIds = some (videoTrackIdsFromScreenShareTilesForPeer tiles peerId))
    (hother : ∃ track ∈ stream.getVideoTracks, Showable remoteTrackMediaSource excludeIds track)
    {tile : ScreenShareTileInfo} (htile : tile ∈ tiles) (hpeer : tile.peerId = peerId)
    {shared track : MediaStreamTrack} (hshared : shared ∈ tile.stream.getVideoTracks)
    (htrack : track ∈ (cameraOnlyParticipantStream localeCompare remoteTrackMediaSource stream
      excludeIds).getVideoTracks) : shared.id ≠ track.id := by
  have hnot := (showsCamera_of_showable localeCompare hother).notExcluded track htrack
  rw [htiles, Option.getD_some, mem_videoTrackIdsFromScreenShareTilesForPeer] at hnot
  exact fun heq => hnot ⟨tile, htile, hpeer, shared, hshared, heq⟩

end Tiles

namespace Sample

def display : MediaStreamTrack where
  id := "display"
  kind := .video

/-- A participant who shares a screen, with the camera off. -/
def cameraOff : MediaStream := ⟨[display], by decide⟩

/-- The screen is shown, though it is marked and excluded. -/
theorem not_showsCamera_cameraOff :
    ¬ ∀ (localeCompare : String → String → ℤ) remoteTrackMediaSource excludeIds stream,
      ShowsCamera remoteTrackMediaSource excludeIds stream
        (cameraOnlyParticipantStream localeCompare remoteTrackMediaSource stream excludeIds) := by
  intro h
  have hshown := (h (fun _ _ => 0) (fun _ => some .screen) (some {"display"}) cameraOff).notScreen
  exact hshown display (by decide +kernel) rfl

end Sample

end Greetup.Client.CameraTile
