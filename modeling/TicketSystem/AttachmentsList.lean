import Mathlib.Data.List.Nodup
import TicketSystem.AttachmentsField
import TicketSystem.Lib.Machine
import TicketSystem.Lib.Pool

namespace TicketSystem

open Interleaved Reactive

/-- The uploads completed for a selection made since the last reset. -/
def CreateView.own (v : CreateView) : List Uuid :=
  (v.completed.filter (·.1 == v.resets)).map Prod.snd

def CreateView.kept (v : CreateView) : List Uuid := v.own.filter (· ∉ v.removed)

/-- The attachment was uploaded for this form, and not removed. -/
def CreateView.Kept (v : CreateView) (a : Uuid) : Prop := a ∈ v.own ∧ a ∉ v.removed

structure CreateView.Exact (v : CreateView) : Prop where
  settled : (∀ u ∈ v.uploads, u.files = []) → v.page.form.attachments = v.kept ∧
    v.page.form.attachments.Nodup ∧ v.page.form.attachments.length ≤ MAX_ATTACHMENTS
  listed : ∀ a ∈ v.page.form.attachments, v.Kept a
  sent : ∀ generated call ids, (v.page.onSubmit generated).2 = some call →
    call.body.attachments = some ids → ∀ a ∈ ids, v.Kept a

/-- The ids of the API are new. -/
def freshUploads (v : CreateView) : CreateEvent → Bool
  | .presign _ (.ok attachmentId) => !v.presigned.contains attachmentId
  | _ => true

/-- The upload whose file an event completes or fails, as it is afterwards. -/
def CreateView.settles (v : CreateView) : CreateEvent → Option HandleFiles
  | .presign i (.error _) => v.uploads[i]?.map HandleFiles.fails
  | .put i true => v.uploads[i]?.bind fun u => u.presign.map u.succeeds
  | .put i false => v.uploads[i]?.map HandleFiles.fails
  | _ => none

/-- An upload that ends with a file finds the form it was made for, and the list it captured. -/
def keepsList (v : CreateView) (e : CreateEvent) : Bool :=
  (v.settles e).all fun u => !u.files.isEmpty || u.uploaded.isEmpty ||
    (u.resets == v.resets && v.page.form.attachments == u.attachments)

/-- Each id is put once, for one form. -/
structure CreateView.Ids (v : CreateView) : Prop where
  nodup : (v.completed.map Prod.snd).Nodup
  known : ∀ x ∈ v.completed, x.2 ∈ v.presigned ∧ x.1 ≤ v.resets
  removed : ∀ a ∈ v.removed, ∃ n, (n, a) ∈ v.completed
  uploads : ∀ (i : Nat) (u : HandleFiles), v.uploads[i]? = some u → u.resets ≤ v.resets ∧
    ∀ a ∈ u.uploaded, (u.resets, a) ∈ v.completed
  puts : ∀ (i : Nat) (u : HandleFiles) (a : Uuid), v.uploads[i]? = some u → u.presign = some a →
    u.files ≠ [] ∧ a ∈ v.presigned ∧ ∀ n, (n, a) ∉ v.completed
  apart : ∀ (i j : Nat) (u w : HandleFiles) (a : Uuid), v.uploads[i]? = some u →
    v.uploads[j]? = some w → u.presign = some a → w.presign = some a → i = j

section Ids

variable {v v' : CreateView} {i : Nat} {u u' : HandleFiles}

theorem CreateView.own_nodup (h : v.Ids) : v.own.Nodup :=
  h.nodup.sublist (List.filter_sublist.map _)

theorem CreateView.mem_own {a : Uuid} : a ∈ v.own ↔ (v.resets, a) ∈ v.completed := by
  simp only [CreateView.own, List.mem_map, List.mem_filter, beq_iff_eq]
  constructor
  · rintro ⟨⟨n, b⟩, ⟨hmem, rfl⟩, rfl⟩
    exact hmem
  · exact fun hmem => ⟨_, ⟨hmem, rfl⟩, rfl⟩

theorem CreateView.mem_kept {a : Uuid} : a ∈ v.kept ↔ v.Kept a := by
  simp [CreateView.kept, CreateView.Kept]

/-- An id stands for one form. -/
theorem CreateView.Ids.unique {m n : Nat} {a : Uuid} (h : v.Ids) (hm : (m, a) ∈ v.completed)
    (hn : (n, a) ∈ v.completed) : m = n :=
  congrArg Prod.fst (List.inj_on_of_nodup_map h.nodup hm hn rfl)

theorem CreateView.Ids.of_same (h : v.Ids) (completed : v'.completed = v.completed)
    (presigned : v'.presigned = v.presigned) (removed : v'.removed = v.removed)
    (uploads : v'.uploads = v.uploads) (resets : v'.resets = v.resets) : v'.Ids where
  nodup := completed ▸ h.nodup
  known := by rw [completed, presigned, resets]; exact h.known
  removed := by rw [removed, completed]; exact h.removed
  uploads := by rw [uploads, resets, completed]; exact h.uploads
  puts := by rw [uploads, presigned, completed]; exact h.puts
  apart := by rw [uploads]; exact h.apart

/-- A selection begins an upload of the form. -/
theorem CreateView.Ids.selected (h : v.Ids) (completed : v'.completed = v.completed)
    (presigned : v'.presigned = v.presigned) (removed : v'.removed = v.removed)
    (uploads : v'.uploads = v.uploads ++ [u]) (resets : v'.resets = v.resets)
    (made : u.resets = v.resets) (presign : u.presign = none) (uploaded : u.uploaded = []) :
    v'.Ids := by
  refine ⟨completed ▸ h.nodup, ?_, ?_, fun j w hj => ?_, fun j w a hj hw => ?_,
    fun j k w x a hj hk hw hx => ?_⟩
  · rw [completed, presigned, resets]
    exact h.known
  · rw [removed, completed]
    exact h.removed
  · rw [uploads] at hj
    rw [resets, completed]
    rcases getElem?_concat_cases hj with hj | ⟨_, rfl⟩
    · exact h.uploads j w hj
    · exact ⟨made.le, by simp [uploaded]⟩
  · rw [uploads] at hj
    rw [presigned, completed]
    rcases getElem?_concat_cases hj with hj | ⟨_, rfl⟩
    · exact h.puts j w a hj hw
    · cases presign.symm.trans hw
  · rw [uploads] at hj hk
    rcases getElem?_concat_cases hj with hj | ⟨_, rfl⟩
    · rcases getElem?_concat_cases hk with hk | ⟨_, rfl⟩
      · exact h.apart j k w x a hj hk hw hx
      · cases presign.symm.trans hx
    · cases presign.symm.trans hw

/-- A file fails, or its put is answered. -/
theorem CreateView.Ids.proceeded (h : v.Ids) (hi : v.uploads[i]? = some u)
    (uploads : v'.uploads = v.uploads.set i u')
    (completed : v'.completed = v.completed ∧ u'.uploaded = u.uploaded ∨
      ∃ a, u.presign = some a ∧ v'.completed = v.completed ++ [(u.resets, a)] ∧
        u'.uploaded = u.uploaded ++ [a])
    (presigned : v'.presigned = v.presigned) (removed : v'.removed = v.removed)
    (resets : v'.resets = v.resets) (made : u'.resets = u.resets) (presign : u'.presign = none) :
    v'.Ids := by
  have hgrows : v.completed ⊆ v'.completed := by
    rcases completed with ⟨hc, _⟩ | ⟨a, _, hc, _⟩
    · exact hc ▸ List.Subset.refl _
    · exact hc ▸ List.subset_append_left _ _
  refine ⟨?_, fun x hx => ?_, fun a ha => ?_, fun j w hj => ?_, fun j w a hj hw => ?_,
    fun j k w x a hj hk hw hx => ?_⟩
  · rcases completed with ⟨hc, _⟩ | ⟨a, ha, hc, _⟩
    · exact hc ▸ h.nodup
    · rw [hc, List.map_append, List.map_singleton]
      refine List.Nodup.append h.nodup (List.nodup_singleton _) ?_
      rw [List.disjoint_singleton]
      intro hmem
      obtain ⟨⟨n, b⟩, hb, rfl⟩ := List.mem_map.mp hmem
      exact (h.puts i u _ hi ha).2.2 n hb
  · rw [presigned, resets]
    rcases completed with ⟨hc, _⟩ | ⟨a, ha, hc, _⟩
    · exact h.known x (hc ▸ hx)
    · rcases List.mem_append.mp (hc ▸ hx) with hx | hx
      · exact h.known x hx
      · cases List.mem_singleton.mp hx
        exact ⟨(h.puts i u a hi ha).2.1, (h.uploads i u hi).1⟩
  · rw [removed] at ha
    exact (h.removed a ha).imp fun _ hn => hgrows hn
  · rw [uploads] at hj
    rw [resets]
    rcases getElem?_set_cases hj with ⟨_, rfl⟩ | ⟨_, hj⟩
    · refine ⟨made ▸ (h.uploads i u hi).1, fun a ha => ?_⟩
      rw [made]
      rcases completed with ⟨_, hu⟩ | ⟨b, _, hc, hu⟩
      · exact hgrows ((h.uploads i u hi).2 a (hu ▸ ha))
      · rcases List.mem_append.mp (hu ▸ ha) with ha | ha
        · exact hgrows ((h.uploads i u hi).2 a ha)
        · cases List.mem_singleton.mp ha
          exact hc ▸ List.mem_append_right _ (List.mem_singleton_self _)
    · exact ⟨(h.uploads j w hj).1, fun a ha => hgrows ((h.uploads j w hj).2 a ha)⟩
  · rw [uploads] at hj
    rcases getElem?_set_cases hj with ⟨_, rfl⟩ | ⟨hji, hj⟩
    · cases presign.symm.trans hw
    · obtain ⟨hfiles, hp, hn⟩ := h.puts j w a hj hw
      refine ⟨hfiles, presigned ▸ hp, fun n hmem => ?_⟩
      rcases completed with ⟨hc, _⟩ | ⟨b, hb, hc, _⟩
      · exact hn n (hc ▸ hmem)
      · rcases List.mem_append.mp (hc ▸ hmem) with hmem | hmem
        · exact hn n hmem
        · cases List.mem_singleton.mp hmem
          exact hji (h.apart j i w u a hj hi hw hb)
  · rw [uploads] at hj hk
    rcases getElem?_set_cases hj with ⟨_, rfl⟩ | ⟨_, hj⟩
    · cases presign.symm.trans hw
    · rcases getElem?_set_cases hk with ⟨_, rfl⟩ | ⟨_, hk⟩
      · cases presign.symm.trans hx
      · exact h.apart j k w x a hj hk hw hx

/-- A presigned id waits for its put. -/
theorem CreateView.Ids.presigned_one {a : Uuid} (h : v.Ids) (hi : v.uploads[i]? = some u)
    (files : u.files ≠ []) (fresh : a ∉ v.presigned) : CreateView.Ids
      { v with presigned := v.presigned ++ [a]
               uploads := v.uploads.set i { u with presign := some a } } := by
  refine ⟨h.nodup, fun x hx => ⟨List.mem_append_left _ (h.known x hx).1, (h.known x hx).2⟩,
    h.removed, fun j w hj => ?_, fun j w b hj hw => ?_, fun j k w x b hj hk hw hx => ?_⟩
  · rcases getElem?_set_cases hj with ⟨_, rfl⟩ | ⟨_, hj⟩
    · exact h.uploads i u hi
    · exact h.uploads j w hj
  · rcases getElem?_set_cases hj with ⟨_, rfl⟩ | ⟨_, hj⟩
    · cases Option.some.inj hw
      exact ⟨files, List.mem_append_right _ (List.mem_singleton_self _),
        fun n hmem => fresh (h.known _ hmem).1⟩
    · obtain ⟨hfiles, hp, hn⟩ := h.puts j w b hj hw
      exact ⟨hfiles, List.mem_append_left _ hp, hn⟩
  · rcases getElem?_set_cases hj with ⟨hji, rfl⟩ | ⟨_, hj⟩
    · rcases getElem?_set_cases hk with ⟨hki, rfl⟩ | ⟨_, hk⟩
      · exact hji.trans hki.symm
      · cases Option.some.inj hw
        exact absurd (h.puts k x _ hk hx).2.1 fresh
    · rcases getElem?_set_cases hk with ⟨_, rfl⟩ | ⟨_, hk⟩
      · cases Option.some.inj hx
        exact absurd (h.puts j w _ hj hw).2.1 fresh
      · exact h.apart j k w x b hj hk hw hx

end Ids

/-- Upload `i` is of the form that is shown, and goes on. -/
def CreateView.Busy (v : CreateView) (i : Nat) (u : HandleFiles) : Prop :=
  v.uploads[i]? = some u ∧ u.resets = v.resets ∧ u.files ≠ []

/-- At most one upload of the form goes on at a time; without it the list is the one it should be,
and with it, when the files uploaded so far are added. -/
structure CreateView.Listing (v : CreateView) : Prop where
  size : v.page.form.attachments.length ≤ MAX_ATTACHMENTS
  only : ∀ i j u w, v.Busy i u → v.Busy j w → i = j
  guard : ∀ i u, v.Busy i u → v.field.uploading = true
  idle : (∀ i u, ¬ v.Busy i u) → v.page.form.attachments = v.kept
  busy : ∀ i u, v.Busy i u → v.kept = v.page.form.attachments ++ u.uploaded ∧
    v.page.form.attachments = u.attachments.filter (· ∉ v.removed) ∧
    u.attachments.length + u.uploaded.length + u.files.length ≤ MAX_ATTACHMENTS

section Listing

variable {v v' : CreateView} {i : Nat} {u u' : HandleFiles}

theorem CreateView.kept_of_same (completed : v'.completed = v.completed)
    (resets : v'.resets = v.resets) (removed : v'.removed = v.removed) : v'.kept = v.kept := by
  simp only [CreateView.kept, CreateView.own, completed, resets, removed]

theorem CreateView.kept_put {a : Uuid} (h : v.Ids) (fresh : ∀ n, (n, a) ∉ v.completed)
    (completed : v'.completed = v.completed ++ [(u.resets, a)]) (resets : v'.resets = v.resets)
    (removed : v'.removed = v.removed) :
    v'.kept = v.kept ++ if u.resets = v.resets then [a] else [] := by
  have hfresh : a ∉ v.removed := fun ha => by
    obtain ⟨n, hn⟩ := h.removed a ha
    exact fresh n hn
  simp only [CreateView.kept, CreateView.own, completed, resets, removed, List.filter_append,
    List.map_append]
  split
  next hu => simp [hu, hfresh]
  next hu => simp [hu]

theorem CreateView.Listing.of_same (h : v.Listing) (attachments :
      v'.page.form.attachments = v.page.form.attachments)
    (completed : v'.completed = v.completed) (removed : v'.removed = v.removed)
    (uploads : v'.uploads = v.uploads) (resets : v'.resets = v.resets)
    (uploading : v'.field.uploading = v.field.uploading) : v'.Listing := by
  have hkept := CreateView.kept_of_same completed resets removed
  have hbusy : ∀ j w, v'.Busy j w ↔ v.Busy j w := fun j w => by
    rw [CreateView.Busy, uploads, resets, CreateView.Busy]
  refine ⟨attachments ▸ h.size, fun j k w x hj hk => ?_, fun j w hj => ?_, fun hno => ?_,
    fun j w hj => ?_⟩
  · exact h.only j k w x ((hbusy j w).mp hj) ((hbusy k x).mp hk)
  · exact uploading.trans (h.guard j w ((hbusy j w).mp hj))
  · rw [attachments, hkept]
    exact h.idle fun j w hj => hno j w ((hbusy j w).mpr hj)
  · rw [attachments, hkept, removed]
    exact h.busy j w ((hbusy j w).mp hj)

/-- A selection captures the list as it is. -/
theorem CreateView.Listing.selected (h : v.Listing) (idle : v.field.uploading = false)
    (attachments : v'.page.form.attachments = v.page.form.attachments)
    (completed : v'.completed = v.completed) (removed : v'.removed = v.removed)
    (uploads : v'.uploads = v.uploads ++ [u]) (resets : v'.resets = v.resets)
    (uploading : v'.field.uploading = true) (made : u.attachments = v.page.form.attachments)
    (uploaded : u.uploaded = [])
    (size : v.page.form.attachments.length + u.files.length ≤ MAX_ATTACHMENTS) : v'.Listing := by
  have hkept := CreateView.kept_of_same completed resets removed
  have hno : ∀ j w, ¬ v.Busy j w := fun j w hj =>
    absurd ((h.guard j w hj).symm.trans idle) (by simp)
  have hlist := h.idle hno
  have hbusy : ∀ j w, v'.Busy j w → j = v.uploads.length ∧ w = u := fun j w hj => by
    obtain ⟨hw, hr, hf⟩ := hj
    rw [uploads] at hw
    rcases getElem?_concat_cases hw with hw | hw
    · exact absurd ⟨hw, hr.trans resets, hf⟩ (hno j w)
    · exact hw
  have hall : v.page.form.attachments = v.page.form.attachments.filter (· ∉ v.removed) := by
    refine (List.filter_eq_self.mpr fun a ha => ?_).symm
    rw [hlist] at ha
    simpa using (CreateView.mem_kept.mp ha).2
  refine ⟨attachments ▸ h.size, fun j k w x hj hk => (hbusy j w hj).1.trans (hbusy k x hk).1.symm,
    fun _ _ _ => uploading, fun _ => by rw [attachments, hkept]; exact hlist, fun j w hj => ?_⟩
  rw [(hbusy j w hj).2, attachments, hkept, removed, uploaded, made]
  exact ⟨by rw [List.append_nil]; exact hlist.symm, hall, by simpa using size⟩

theorem CreateView.busy_set (uploads : v'.uploads = v.uploads.set i u')
    (resets : v'.resets = v.resets) {j : Nat} {w : HandleFiles} (hj : v'.Busy j w) :
    j = i ∧ w = u' ∨ j ≠ i ∧ v.Busy j w := by
  obtain ⟨hw, hr, hf⟩ := hj
  rw [uploads] at hw
  rcases getElem?_set_cases hw with hw | ⟨hne, hw⟩
  · exact .inl hw
  · exact .inr ⟨hne, hw, hr.trans resets, hf⟩

/-- The upload of the form moves on, or ends on the list it captured. -/
theorem CreateView.Listing.own_proceeded {more : List Uuid} (h : v.Listing)
    (hi : v.uploads[i]? = some u) (files : u.files ≠ []) (hown : u.resets = v.resets)
    (removed : v'.removed = v.removed) (uploads : v'.uploads = v.uploads.set i u')
    (resets : v'.resets = v.resets)
    (made : u'.resets = u.resets ∧ u'.attachments = u.attachments)
    (uploaded : u'.uploaded = u.uploaded ++ more) (hkept : v'.kept = v.kept ++ more)
    (hlength : u'.uploaded.length + u'.files.length ≤ u.uploaded.length + u.files.length)
    (going : u'.files ≠ [] → v'.page.form.attachments = v.page.form.attachments ∧
      v'.field.uploading = v.field.uploading)
    (ended : u'.files = [] →
      v'.page.form.attachments = v.page.form.attachments ++ u'.uploaded) : v'.Listing := by
  have hbusy : v.Busy i u := ⟨hi, hown, files⟩
  have hone : ∀ j w, v'.Busy j w → j = i ∧ w = u' := fun j w hj => by
    rcases CreateView.busy_set uploads resets hj with hj | ⟨hne, hj⟩
    · exact hj
    · exact absurd (h.only j i w u hj hbusy) hne
  obtain ⟨hlist, hfilter, hsize⟩ := h.busy i u hbusy
  rw [hlist, List.append_assoc, ← uploaded] at hkept
  have hshort : v.page.form.attachments.length ≤ u.attachments.length := by
    rw [hfilter]
    exact List.length_filter_le _ _
  refine ⟨?_, fun j k w x hj hk => (hone j w hj).1.trans (hone k x hk).1.symm,
    fun j w hj => ?_, fun hno => ?_, fun j w hj => ?_⟩
  · by_cases hf : u'.files = []
    · rw [ended hf, List.length_append]
      omega
    · rw [(going hf).1]
      exact h.size
  · obtain ⟨_, rfl⟩ := hone j w hj
    rw [(going hj.2.2).2]
    exact h.guard i u hbusy
  · have hf : u'.files = [] := by
      by_contra hf
      have hlen := (List.getElem?_eq_some_iff.mp hi).1
      exact hno i u' ⟨by rw [uploads, List.getElem?_set_self hlen],
        made.1.trans (hown.trans resets.symm), hf⟩
    rw [ended hf, hkept]
  · obtain ⟨_, rfl⟩ := hone j w hj
    rw [(going hj.2.2).1, made.2, removed]
    exact ⟨hkept, hfilter, by omega⟩

/-- An upload of an earlier form moves on, and leaves the list alone. -/
theorem CreateView.Listing.earlier_proceeded (h : v.Listing) (hi : v.uploads[i]? = some u)
    (hown : u.resets ≠ v.resets) (removed : v'.removed = v.removed)
    (uploads : v'.uploads = v.uploads.set i u') (resets : v'.resets = v.resets)
    (made : u'.resets = u.resets) (hkept : v'.kept = v.kept)
    (attachments : v'.page.form.attachments = v.page.form.attachments)
    (uploading : v'.field.uploading = v.field.uploading) : v'.Listing := by
  have hother : ∀ j w, v'.Busy j w → v.Busy j w := fun j w hj => by
    rcases CreateView.busy_set uploads resets hj with ⟨rfl, rfl⟩ | ⟨_, hj⟩
    · exact absurd (made.symm.trans (hj.2.1.trans resets)) hown
    · exact hj
  refine ⟨attachments ▸ h.size, fun j k w x hj hk => h.only j k w x (hother j w hj) (hother k x hk),
    fun j w hj => uploading.trans (h.guard j w (hother j w hj)), fun hno => ?_, fun j w hj => ?_⟩
  · rw [attachments, hkept]
    refine h.idle fun j w hj => hno j w ⟨?_, hj.2.1.trans resets.symm, hj.2.2⟩
    have hji : i ≠ j := by
      rintro rfl
      exact hown (Option.some.inj (hi.symm.trans hj.1) ▸ hj.2.1)
    rw [uploads, List.getElem?_set_ne hji]
    exact hj.1
  · rw [attachments, hkept, removed]
    exact h.busy j w (hother j w hj)

theorem CreateView.Listing.proceeded (h : v.Listing) (hi : v.uploads[i]? = some u)
    (files : u.files ≠ []) (removed : v'.removed = v.removed)
    (uploads : v'.uploads = v.uploads.set i u') (resets : v'.resets = v.resets)
    (made : u'.resets = u.resets ∧ u'.attachments = u.attachments)
    (kept : ∃ more, u'.uploaded = u.uploaded ++ more ∧
      v'.kept = v.kept ++ (if u.resets = v.resets then more else []) ∧
      u'.uploaded.length + u'.files.length ≤ u.uploaded.length + u.files.length)
    (going : u'.files ≠ [] ∨ u.resets ≠ v.resets →
      v'.page.form.attachments = v.page.form.attachments ∧
        v'.field.uploading = v.field.uploading)
    (ended : u'.files = [] → u.resets = v.resets →
      v'.page.form.attachments = v.page.form.attachments ++ u'.uploaded) : v'.Listing := by
  obtain ⟨more, huploaded, hkept, hlength⟩ := kept
  by_cases hown : u.resets = v.resets
  · rw [if_pos hown] at hkept
    exact h.own_proceeded hi files hown removed uploads resets made huploaded hkept hlength
      (fun hf => going (.inl hf)) (fun hf => ended hf hown)
  · rw [if_neg hown, List.append_nil] at hkept
    have hsame := going (.inr hown)
    exact h.earlier_proceeded hi hown removed uploads resets made.1 hkept hsame.1 hsame.2

/-- Quitar takes an attachment out of the list and of what it should be. -/
theorem CreateView.Listing.quitar {a : Uuid} (h : v.Listing) (hids : v.Ids)
    (ha : a ∈ v.page.form.attachments) : (v.quitar a).Listing := by
  have hfilter : ∀ l : List Uuid, l.filter (· ∉ v.removed ++ [a]) =
      (l.filter (· ∉ v.removed)).filter (· != a) := fun l => by
    rw [List.filter_filter]
    refine List.filter_congr fun x _ => Bool.eq_iff_iff.mpr ?_
    simp [and_comm]
  have hkept : (v.quitar a).kept = v.kept.filter (· != a) := hfilter v.own
  have hbusy : ∀ j w, (v.quitar a).Busy j w ↔ v.Busy j w := fun j w => Iff.rfl
  have hnodup : v.kept.Nodup := (CreateView.own_nodup hids).filter _
  refine ⟨(List.length_filter_le _ _).trans h.size, fun j k w x => h.only j k w x, h.guard,
    fun hno => ?_, fun j w hj => ?_⟩
  · rw [hkept, ← h.idle hno]
    rfl
  · obtain ⟨hlist, hatt, hsize⟩ := h.busy j w hj
    have hother : w.uploaded.filter (· != a) = w.uploaded := by
      refine List.filter_eq_self.mpr fun x hx => ?_
      rw [hlist] at hnodup
      simpa using fun he : x = a => (List.disjoint_of_nodup_append hnodup ha) (he ▸ hx)
    refine ⟨?_, ?_, hsize⟩
    · rw [hkept, hlist, List.filter_append, hother]
      rfl
    · change v.page.form.attachments.filter (· != a) = w.attachments.filter (· ∉ v.removed ++ [a])
      rw [hfilter, ← hatt]

end Listing

/-- What an event does: it leaves the uploads and the list alone, begins an upload, presigns one of
its files, settles one, removes an attachment or empties the form. -/
inductive CreateView.Moves (v : CreateView) : CreateEvent → CreateView → Prop
  | page {e : CreateEvent} {p : CreateTicketPage} {f : AttachmentsField}
      (attachments : p.form.attachments = v.page.form.attachments)
      (uploading : f.uploading = v.field.uploading) (quiet : v.settles e = none) :
      Moves v e { v with page := p, field := f }
  | selects {fileList accepted : List File} {f : AttachmentsField}
      (idle : v.field.uploading = false) (uploading : f.uploading = true)
      (size : v.page.form.attachments.length + accepted.length ≤ MAX_ATTACHMENTS) :
      Moves v (.select fileList)
        { v with field := f
                 uploads := v.uploads ++ [{ resets := v.resets
                                            attachments := v.page.form.attachments
                                            files := accepted }] }
  | presigns {i : Nat} {u : HandleFiles} {attachmentId : Uuid} (call : v.uploads[i]? = some u)
      (files : u.files ≠ []) :
      Moves v (.presign i (.ok attachmentId))
        { v with presigned := v.presigned ++ [attachmentId]
                 uploads := v.uploads.set i { u with presign := some attachmentId } }
  | fails {e : CreateEvent} {i : Nat} {u : HandleFiles} (call : v.uploads[i]? = some u)
      (going : u.files ≠ [] ∨ u.presign ≠ none) (settled : v.settles e = some u.fails) :
      Moves v e (v.proceed i u.fails)
  | succeeds {i : Nat} {u : HandleFiles} {attachmentId : Uuid} (call : v.uploads[i]? = some u)
      (presign : u.presign = some attachmentId) :
      Moves v (.put i true) (CreateView.proceed
        { v with completed := v.completed ++ [(u.resets, attachmentId)] } i
        (u.succeeds attachmentId))
  | quitar {attachmentId : Uuid} (listed : attachmentId ∈ v.page.form.attachments) :
      Moves v (.quitar attachmentId) (v.quitar attachmentId)
  | reset : Moves v .createAnother v.createAnother

theorem CreateTicketPage.onSubmit_form (p : CreateTicketPage) (generated : String) :
    (p.onSubmit generated).1.form = p.form := by
  unfold CreateTicketPage.onSubmit
  dsimp only
  split <;> rfl

theorem CreateTicketPage.settle_form (p : CreateTicketPage) (r : Except SubmitError Ticket) :
    (p.settle r).form = p.form := by
  cases r <;> rfl

theorem CreateView.handleFiles_moves (v : CreateView) (fileList : List File) :
    v.Moves (.select fileList) (v.handleFiles fileList) := by
  unfold CreateView.handleFiles
  split
  next => exact .page rfl rfl rfl
  next hgo =>
    simp only [Bool.or_eq_true, not_or, Bool.not_eq_true] at hgo
    dsimp only
    split
    next => exact .page rfl rfl rfl
    next hsize =>
      split
      next => exact .page rfl rfl rfl
      next => exact .selects hgo.2 rfl (by omega)

theorem CreateView.next_moves {v v' : CreateView} {e : CreateEvent} (h : v.next e = some v') :
    v.Moves e v' := by
  cases e with
  | edit form =>
    simp only [CreateView.next] at h
    split at h
    next => cases h
    next => cases Option.some.inj h; exact .page rfl rfl rfl
  | select fileList =>
    simp only [CreateView.next] at h
    split at h
    next => cases h
    next => cases Option.some.inj h; exact CreateView.handleFiles_moves v fileList
  | presign i r =>
    simp only [CreateView.next] at h
    split at h
    next => cases h
    next u hu =>
      split at h
      next => cases h
      next hgo =>
        simp only [Bool.or_eq_true, not_or, List.isEmpty_iff] at hgo
        split at h
        next => cases Option.some.inj h; exact .presigns hu hgo.1
        next =>
          cases Option.some.inj h
          exact .fails hu (.inl hgo.1) (by simp [CreateView.settles, hu])
  | put i ok =>
    simp only [CreateView.next] at h
    split at h
    next => cases h
    next u hu =>
      split at h
      next => cases h
      next a ha =>
        split at h
        next hok =>
          cases Option.some.inj h
          rw [hok]
          exact .succeeds hu ha
        next hok =>
          cases Option.some.inj h
          rw [Bool.not_eq_true] at hok
          rw [hok]
          exact .fails hu (.inr (by simp [ha])) (by simp [CreateView.settles, hu])
  | quitar attachmentId =>
    simp only [CreateView.next] at h
    split at h
    next => cases h
    next hgo =>
      cases Option.some.inj h
      simp only [Bool.or_eq_true, not_or, Bool.not_eq_true', Bool.not_eq_false,
        List.contains_iff_mem] at hgo
      exact .quitar hgo.2
  | submit generated =>
    simp only [CreateView.next] at h
    split at h
    next => cases h
    next =>
      cases Option.some.inj h
      exact .page (by rw [CreateTicketPage.onSubmit_form]) rfl rfl
  | settle r =>
    simp only [CreateView.next] at h
    split at h
    next =>
      cases Option.some.inj h
      exact .page (by rw [CreateTicketPage.settle_form]) rfl rfl
    next => cases h
  | createAnother =>
    simp only [CreateView.next] at h
    split at h
    next => cases Option.some.inj h; exact .reset
    next => cases h

/-- The list is the one it should be, or will be when the upload of the form ends. -/
structure CreateView.Tidy (v : CreateView) : Prop extends v.Ids, v.Listing

section Events

variable {v v' : CreateView} {i : Nat} {u u' : HandleFiles}

theorem CreateView.proceed_fields (v : CreateView) (i : Nat) (u : HandleFiles) :
    (v.proceed i u).uploads = v.uploads.set i u ∧ (v.proceed i u).completed = v.completed ∧
      (v.proceed i u).presigned = v.presigned ∧ (v.proceed i u).removed = v.removed ∧
      (v.proceed i u).resets = v.resets := by
  unfold CreateView.proceed
  dsimp only
  split <;> exact ⟨rfl, rfl, rfl, rfl, rfl⟩

theorem CreateView.proceed_going (v : CreateView) (i : Nat) (h : u.files ≠ []) :
    (v.proceed i u).page = v.page ∧ (v.proceed i u).field = v.field := by
  simp [CreateView.proceed, h]

theorem CreateView.proceed_over (v : CreateView) (i : Nat) (h : u.files = []) :
    (v.proceed i u).page.form.attachments =
      if u.uploaded = [] then v.page.form.attachments else u.attachments ++ u.uploaded := by
  simp only [CreateView.proceed, h, List.isEmpty_nil, if_true, CreateView.finish,
    List.isEmpty_iff]
  split <;> rfl

theorem CreateView.proceed_other (v : CreateView) (i : Nat) (h : u.resets ≠ v.resets) :
    (v.proceed i u).field = v.field := by
  unfold CreateView.proceed
  dsimp only
  split
  next => simp [CreateView.finish, h]
  next => rfl

/-- An upload that ends with a file, if it ends, ends on the form and the list it captured. -/
def CreateView.Spares (v : CreateView) (u : HandleFiles) : Prop :=
  u.files = [] → u.uploaded ≠ [] → u.resets = v.resets ∧ v.page.form.attachments = u.attachments

theorem keepsList_iff {e : CreateEvent} :
    keepsList v e = true ↔ ∀ u, v.settles e = some u → v.Spares u := by
  simp only [keepsList, Option.all_eq_true, CreateView.Spares, Bool.or_eq_true,
    Bool.and_eq_true, beq_iff_eq, Bool.not_eq_true', List.isEmpty_eq_false_iff, List.isEmpty_iff]
  refine forall_congr' fun u => forall_congr' fun _ => ?_
  tauto

/-- The list after a file of upload `i` is settled, whatever it is. -/
theorem CreateView.Listing.proceed {completed : List (Nat × Uuid)} (h : v.Listing)
    (hi : v.uploads[i]? = some u) (files : u.files ≠ [])
    (made : u'.resets = u.resets ∧ u'.attachments = u.attachments) (hok : v.Spares u')
    (kept : ∃ more, u'.uploaded = u.uploaded ++ more ∧
      ({ v with completed := completed } : CreateView).kept =
        v.kept ++ (if u.resets = v.resets then more else []) ∧
      u'.uploaded.length + u'.files.length ≤ u.uploaded.length + u.files.length) :
    (CreateView.proceed { v with completed := completed } i u').Listing := by
  obtain ⟨uploads, hcompleted, _, removed, resets⟩ :=
    CreateView.proceed_fields { v with completed := completed } i u'
  have hlist : u'.files = [] → u.resets = v.resets ∨ u'.uploaded = [] →
      (CreateView.proceed { v with completed := completed } i u').page.form.attachments =
        v.page.form.attachments ++ u'.uploaded := fun hf _ => by
    rw [CreateView.proceed_over _ i hf]
    by_cases hu : u'.uploaded = []
    · rw [if_pos hu, hu, List.append_nil]
    · rw [if_neg hu, (hok hf hu).2]
  refine h.proceeded hi files removed uploads resets made ?_ (fun hgo => ?_)
    fun hf hown => hlist hf (.inl hown)
  · obtain ⟨more, hu, hkept, hlength⟩ := kept
    refine ⟨more, hu, ?_, hlength⟩
    rw [← hkept]
    exact CreateView.kept_of_same hcompleted resets removed
  · by_cases hf : u'.files = []
    · have hother : u.resets ≠ v.resets := hgo.resolve_left fun hne => hne hf
      have hu : u'.uploaded = [] := by
        by_contra hu
        exact hother (made.1.symm.trans (hok hf hu).1)
      refine ⟨by rw [hlist hf (.inr hu), hu, List.append_nil], ?_⟩
      have hfield := CreateView.proceed_other { v with completed := completed } i
        (fun he => hother (made.1.symm.trans he))
      rw [hfield]
    · obtain ⟨hpage, hfield⟩ :=
        CreateView.proceed_going { v with completed := completed } i hf
      exact ⟨by rw [hpage], by rw [hfield]⟩

theorem CreateView.Tidy.files_of_going (h : v.Tidy) (hi : v.uploads[i]? = some u)
    (going : u.files ≠ [] ∨ u.presign ≠ none) : u.files ≠ [] := by
  rcases going with hf | hp
  · exact hf
  · obtain ⟨a, ha⟩ := Option.ne_none_iff_exists'.mp hp
    exact (h.puts i u a hi ha).1

theorem CreateView.Tidy.ids_fails (h : v.Tidy) (hi : v.uploads[i]? = some u) :
    (v.proceed i u.fails).Ids := by
  obtain ⟨uploads, completed, presigned, removed, resets⟩ := v.proceed_fields i u.fails
  exact h.toIds.proceeded hi uploads (.inl ⟨completed, rfl⟩) presigned removed resets rfl rfl

theorem CreateView.Tidy.fails (h : v.Tidy) (hi : v.uploads[i]? = some u) (files : u.files ≠ [])
    (hok : v.Spares u.fails) : (v.proceed i u.fails).Tidy := by
  refine ⟨h.ids_fails hi, CreateView.Listing.proceed h.toListing hi files ⟨rfl, rfl⟩ hok
    ⟨[], by simp [HandleFiles.fails], by simp, ?_⟩⟩
  simp only [HandleFiles.fails, List.length_tail]
  omega

theorem CreateView.Tidy.ids_succeeds {a : Uuid} (h : v.Tidy) (hi : v.uploads[i]? = some u)
    (presign : u.presign = some a) :
    (CreateView.proceed { v with completed := v.completed ++ [(u.resets, a)] } i
      (u.succeeds a)).Ids := by
  obtain ⟨uploads, completed, presigned, removed, resets⟩ := CreateView.proceed_fields
    { v with completed := v.completed ++ [(u.resets, a)] } i (u.succeeds a)
  exact h.toIds.proceeded hi uploads (.inr ⟨a, presign, completed, rfl⟩) presigned removed resets
    rfl rfl

theorem CreateView.Tidy.succeeds {a : Uuid} (h : v.Tidy) (hi : v.uploads[i]? = some u)
    (presign : u.presign = some a) (hok : v.Spares (u.succeeds a)) :
    (CreateView.proceed { v with completed := v.completed ++ [(u.resets, a)] } i
      (u.succeeds a)).Tidy := by
  obtain ⟨files, _, fresh⟩ := h.puts i u a hi presign
  have hpos := List.length_pos_iff.mpr files
  refine ⟨h.ids_succeeds hi presign, CreateView.Listing.proceed h.toListing hi files ⟨rfl, rfl⟩ hok
    ⟨[a], rfl, CreateView.kept_put h.toIds fresh rfl rfl rfl, ?_⟩⟩
  simp only [HandleFiles.succeeds, List.length_append, List.length_tail, List.length_singleton]
  omega

theorem CreateView.Tidy.presigns {a : Uuid} (h : v.Tidy) (hi : v.uploads[i]? = some u)
    (files : u.files ≠ []) (fresh : a ∉ v.presigned) : CreateView.Tidy
      { v with presigned := v.presigned ++ [a]
               uploads := v.uploads.set i { u with presign := some a } } :=
  ⟨h.toIds.presigned_one hi files fresh, h.toListing.proceeded hi files rfl rfl rfl ⟨rfl, rfl⟩
    ⟨[], by simp, by simp [CreateView.kept, CreateView.own], le_refl _⟩ (fun _ => ⟨rfl, rfl⟩)
    fun hf => absurd hf files⟩

theorem CreateView.Tidy.quitar {a : Uuid} (h : v.Tidy) (ha : a ∈ v.page.form.attachments) :
    (v.quitar a).Tidy := by
  have hown : ∃ n, (n, a) ∈ v.completed := by
    by_cases hb : ∃ j w, v.Busy j w
    · obtain ⟨j, w, hb⟩ := hb
      have hmem : a ∈ v.kept := (h.busy j w hb).1 ▸ List.mem_append_left _ ha
      exact ⟨_, CreateView.mem_own.mp (CreateView.mem_kept.mp hmem).1⟩
    · have hlist := h.idle fun j w hj => hb ⟨j, w, hj⟩
      exact ⟨_, CreateView.mem_own.mp (CreateView.mem_kept.mp (hlist ▸ ha)).1⟩
  refine ⟨⟨h.nodup, h.known, fun b hb => ?_, h.uploads, h.puts, h.apart⟩,
    h.toListing.quitar h.toIds ha⟩
  rcases List.mem_append.mp hb with hb | hb
  · exact h.removed b hb
  · cases List.mem_singleton.mp hb
    exact hown

theorem CreateView.Tidy.reset (h : v.Tidy) : v.createAnother.Tidy := by
  have hno : ∀ j w, ¬ v.createAnother.Busy j w := fun j w hj => by
    have hlt := (h.uploads j w hj.1).1
    have heq : w.resets = v.resets + 1 := hj.2.1
    omega
  have hown : v.createAnother.own = [] := by
    refine List.eq_nil_iff_forall_not_mem.mpr fun a ha => ?_
    have hmem : (v.resets + 1, a) ∈ v.completed := CreateView.mem_own.mp ha
    have hle := (h.known _ hmem).2
    omega
  refine ⟨⟨h.nodup, fun x hx => ⟨(h.known x hx).1, (h.known x hx).2.trans (Nat.le_succ _)⟩,
    h.removed, fun j w hj => ⟨(h.uploads j w hj).1.trans (Nat.le_succ _), (h.uploads j w hj).2⟩,
    h.puts, h.apart⟩, ⟨Nat.zero_le _, fun j _ w _ hj => absurd hj (hno j w),
    fun j w hj => absurd hj (hno j w), fun _ => ?_, fun j w hj => absurd hj (hno j w)⟩⟩
  rw [CreateView.kept, hown]
  rfl

theorem CreateView.Moves.tidy {e : CreateEvent} (hm : v.Moves e v') (h : v.Tidy)
    (fresh : freshUploads v e = true) (hok : keepsList v e = true) : v'.Tidy := by
  have hspares := keepsList_iff.mp hok
  cases hm with
  | page attachments uploading =>
    exact ⟨h.toIds.of_same rfl rfl rfl rfl rfl,
      h.toListing.of_same attachments rfl rfl rfl rfl uploading⟩
  | selects idle uploading size =>
    exact ⟨h.toIds.selected rfl rfl rfl rfl rfl rfl rfl rfl,
      h.toListing.selected idle rfl rfl rfl rfl rfl uploading rfl rfl size⟩
  | presigns call files => exact h.presigns call files (by simpa [freshUploads] using fresh)
  | @fails e i u call going settled =>
    exact h.fails call (h.files_of_going call going) (hspares _ settled)
  | @succeeds i u a call presign =>
    exact h.succeeds call presign (hspares _ (by simp [CreateView.settles, call, presign]))
  | quitar listed => exact h.quitar listed
  | reset => exact h.reset

end Events

section Runs

variable {v v' : CreateView} {i : Nat} {u : HandleFiles} {e : CreateEvent}

theorem CreateView.Tidy.exact (h : v.Tidy) : v.Exact := by
  have hlisted : ∀ a ∈ v.page.form.attachments, v.Kept a := fun a ha => by
    by_cases hb : ∃ j w, v.Busy j w
    · obtain ⟨j, w, hb⟩ := hb
      exact CreateView.mem_kept.mp ((h.busy j w hb).1 ▸ List.mem_append_left _ ha)
    · exact CreateView.mem_kept.mp ((h.idle fun j w hj => hb ⟨j, w, hj⟩) ▸ ha)
  refine ⟨fun hover => ?_, hlisted, fun generated call ids hcall hids a ha => hlisted a ?_⟩
  · have hlist := h.idle fun j w hj => hj.2.2 (hover w (List.mem_of_getElem? hj.1))
    exact ⟨hlist, hlist ▸ (CreateView.own_nodup h.toIds).filter _, h.size⟩
  · obtain ⟨p', _, hno | hsome⟩ := v.page.onSubmit_cases generated
    · rw [hno] at hcall
      cases hcall
    · rw [hsome] at hcall
      cases Option.some.inj hcall
      simp only [createTicket, CreateForm.body] at hids
      split at hids
      next => exact Option.some.inj hids ▸ ha
      next => cases hids

/-- An upload that ends on another form, or on a list that has lost an attachment, brings back
what does not belong there. -/
theorem CreateView.Tidy.not_exact {completed : List (Nat × Uuid)} (h : v.Tidy)
    (hi : v.uploads[i]? = some u) (hfiles : u.files ≠ []) {u' : HandleFiles}
    (made : u'.resets = u.resets ∧ u'.attachments = u.attachments)
    (hids : (CreateView.proceed { v with completed := completed } i u').Ids)
    (hbad : ¬ v.Spares u') :
    ¬ (CreateView.proceed { v with completed := completed } i u').Exact := by
  obtain ⟨files, uploaded, hbad⟩ : u'.files = [] ∧ u'.uploaded ≠ [] ∧
      ¬ (u'.resets = v.resets ∧ v.page.form.attachments = u'.attachments) := by
    simpa [CreateView.Spares] using hbad
  obtain ⟨uploads, _, _, removed, resets⟩ :=
    CreateView.proceed_fields { v with completed := completed } i u'
  have hlist := CreateView.proceed_over { v with completed := completed } i files
  rw [if_neg uploaded] at hlist
  intro hexact
  by_cases hown : u'.resets = v.resets
  · have hne := fun hs => hbad ⟨hown, hs⟩
    have hfilter := (h.busy i u ⟨hi, made.1.symm.trans hown, hfiles⟩).2.1
    refine hne (hfilter.trans (made.2 ▸ List.filter_eq_self.mpr fun a ha => ?_))
    have hkept := (hexact.listed a (hlist ▸ List.mem_append_left _ (made.2 ▸ ha))).2
    rw [removed] at hkept
    simpa using hkept
  · obtain ⟨a, ha⟩ := List.exists_mem_of_ne_nil _ uploaded
    have hlisted := hexact.listed a (hlist ▸ List.mem_append_right _ ha)
    have hlen := (List.getElem?_eq_some_iff.mp hi).1
    have hup := (hids.uploads i u' (by rw [uploads, List.getElem?_set_self hlen])).2 a ha
    have := hids.unique hup (CreateView.mem_own.mp hlisted.1)
    exact hown (this.trans resets)

theorem CreateView.Moves.not_exact (hm : v.Moves e v') (h : v.Tidy)
    (hbad : keepsList v e = false) : ¬ v'.Exact := by
  have hbad : ∃ w, v.settles e = some w ∧ ¬ v.Spares w := by
    by_contra hall
    push Not at hall
    exact absurd (keepsList_iff.mpr hall) (by simp [hbad])
  obtain ⟨w, hw, hspares⟩ := hbad
  cases hm with
  | page _ _ quiet => cases quiet.symm.trans hw
  | selects => cases hw
  | presigns => cases hw
  | @fails e i u call going settled =>
    cases Option.some.inj (settled.symm.trans hw)
    exact h.not_exact call (h.files_of_going call going) ⟨rfl, rfl⟩ (h.ids_fails call) hspares
  | @succeeds i u a call presign =>
    have hsettled : v.settles (.put i true) = some (u.succeeds a) := by
      simp [CreateView.settles, call, presign]
    cases Option.some.inj (hsettled.symm.trans hw)
    exact h.not_exact call (h.puts i u a call presign).1 ⟨rfl, rfl⟩
      (h.ids_succeeds call presign) hspares
  | quitar => cases hw
  | reset => cases hw

theorem CreateView.mounted_tidy : CreateView.Tidy {} := by
  have hno : ∀ j w, ¬ CreateView.Busy {} j w := fun j w hj => by simpa using hj.1
  exact ⟨⟨by simp, by simp, by simp, by simp, by simp, by simp⟩, ⟨Nat.zero_le _,
    fun j _ w _ hj => absurd hj (hno j w), fun j w hj => absurd hj (hno j w), fun _ => rfl,
    fun j w hj => absurd hj (hno j w)⟩⟩

theorem CreateView.runs_tidy (h : Runs CreateView.next (both freshUploads keepsList) {} v) :
    v.Tidy :=
  h.invariant CreateView.mounted_tidy fun _ _ _ ht hok hs =>
    (CreateView.next_moves hs).tidy ht (Bool.and_eq_true_iff.mp hok).1
      (Bool.and_eq_true_iff.mp hok).2

end Runs

/-- A run of the form is exact all along exactly when every upload that ends with a file finds the
form it was made for and the list it captured. -/
theorem CreateView.exact_iff (events : List CreateEvent) (v : CreateView)
    (run : Reactive.replay CreateView.next freshUploads events {} = some v) :
    (∀ n v', Reactive.replay CreateView.next freshUploads (events.take n) {} = some v' → v'.Exact) ↔
      Reactive.replay CreateView.next (both freshUploads keepsList) events {} = some v := by
  refine replay_iff CreateView.mounted_tidy.exact (fun v e v' hr fresh hs => ?_) run
  have hm := CreateView.next_moves hs
  have ht := CreateView.runs_tidy hr
  constructor
  · intro hexact
    by_contra hbad
    exact hm.not_exact ht (by simpa using hbad) hexact
  · exact fun hok => (hm.tidy ht fresh hok).exact

namespace Sample

def pdf : File := { name := "red.pdf", size := 2048 }

/-- One file is selected and uploaded. -/
def attaches (i : Nat) (attachmentId : Uuid) : List CreateEvent :=
  [.select [pdf], .presign i (.ok attachmentId), .put i true]

/-- The first of two attachments is removed when the second has come, and one more is attached. -/
def removesAfter : List CreateEvent :=
  attaches 0 10 ++ attaches 1 11 ++ [.quitar 10] ++ attaches 2 12

def attachedAgain : CreateView :=
  (Reactive.replay CreateView.next freshUploads removesAfter {}).get (by decide)

/-- The first attachment is removed while the second is on its way. -/
def removesDuring : List CreateEvent :=
  attaches 0 10 ++ [.select [pdf], .quitar 10, .presign 1 (.ok 11), .put 1 true]

end Sample

open Sample in
theorem exact_of_attached :
    (∀ n v, Reactive.replay CreateView.next freshUploads (removesAfter.take n) {} = some v →
      v.Exact) ∧ attachedAgain.page.form.attachments = [11, 12] := by
  have hreplay : Reactive.replay CreateView.next (both freshUploads keepsList) removesAfter {} =
      some attachedAgain := by decide +kernel
  have hrun : Reactive.replay CreateView.next freshUploads removesAfter {} = some attachedAgain :=
    (Option.some_get _).symm
  exact ⟨(CreateView.exact_iff removesAfter _ hrun).mpr hreplay, by decide +kernel⟩

open Sample in
/-- The upload writes back the list it captured, with the attachment that was removed. -/
theorem removed_attachment_back : ¬ ∀ (events : List CreateEvent) (v : CreateView),
    Reactive.replay CreateView.next freshUploads events {} = some v → v.Exact := by
  intro hall
  let v := (Reactive.replay CreateView.next freshUploads removesDuring {}).get (by decide)
  have hback : v.page.form.attachments = [10, 11] := by decide
  have hremoved : v.removed = [10] := by decide
  have hexact := hall removesDuring v (Option.some_get (by decide)).symm
  exact (hexact.listed 10 (by simp [hback])).2 (by simp [hremoved])

end TicketSystem
