import Mathlib.Data.List.Basic

/-! `Camera3H264Decoder` over any run of its calls: the codec is only a log of the calls made on
it, what it returns is given with each call, and no call reaches a deleted codec. -/

namespace CameraService.Decoder

inductive Status
  | ok
  | unknownError
  | invalidOperation
  deriving DecidableEq, Repr

abbrev Codec := Option Nat

inductive Call
  | createDecoderByType (result : Codec)
  | configure (codec : Codec)
  | start (codec : Codec)
  | stop (codec : Codec)
  | delete (codec : Codec)
  | dequeueInputBuffer (codec : Codec)
  | getInputBuffer (codec : Codec)
  | queueInputBuffer (codec : Codec) (size : Nat)
  | dequeueOutputBuffer (codec : Codec)
  | getOutputFormat (codec : Codec)
  | getOutputBuffer (codec : Codec)
  | releaseOutputBuffer (codec : Codec)
  deriving DecidableEq, Repr

def Call.codec? : Call → Option Codec
  | .createDecoderByType _ => none
  | .configure c | .start c | .stop c | .delete c | .dequeueInputBuffer c | .getInputBuffer c
  | .queueInputBuffer c _ | .dequeueOutputBuffer c | .getOutputFormat c | .getOutputBuffer c
  | .releaseOutputBuffer c => some c

/-- `Camera3H264Decoder`'s fields, with their values after the constructor. `created` and `calls`
are not in the code: the number of codecs created so far, which names the next one, and the
calls made so far. -/
structure H264Decoder where
  codec : Codec := none
  initialized : Bool := false
  currentWidth : Nat := 0
  currentHeight : Nat := 0
  created : Nat := 0
  calls : List Call := []
  deriving DecidableEq, Repr

structure Setup where
  create : Bool
  configure : Bool
  start : Bool
  deriving DecidableEq, Repr

/-- What `AMediaCodec_dequeueOutputBuffer` returns: `AMEDIACODEC_INFO_TRY_AGAIN_LATER`,
`AMEDIACODEC_INFO_OUTPUT_FORMAT_CHANGED`, another negative code, or a buffer holding `size`
bytes; `mapped` is whether `AMediaCodec_getOutputBuffer` returns its data. -/
inductive Dequeued
  | tryAgainLater
  | outputFormatChanged
  | otherError
  | buffer (size : Nat) (mapped : Bool)
  deriving DecidableEq, Repr

structure Feed where
  drained : List Dequeued
  index : Int
  drainedOnRetry : List Dequeued
  retryIndex : Int
  fits : Bool
  drainedAfter : List Dequeued
  deriving DecidableEq, Repr

def tryAgainLater : Int := -1

def processOutput (codec : Codec) : List Dequeued → List Call
  | [] | .tryAgainLater :: _ | .otherError :: _ => [.dequeueOutputBuffer codec]
  | .outputFormatChanged :: rest =>
    .dequeueOutputBuffer codec :: .getOutputFormat codec :: processOutput codec rest
  | .buffer size mapped :: rest =>
    .dequeueOutputBuffer codec ::
      ((if 0 < size then
          .getOutputBuffer codec :: (if mapped then [.getOutputFormat codec] else []) else []) ++
        .releaseOutputBuffer codec :: processOutput codec rest)

namespace H264Decoder

def call (d : H264Decoder) (c : Call) : H264Decoder := { d with calls := d.calls ++ [c] }

def initializeDecoder (width height : Nat) (r : Setup) (d : H264Decoder) : Status × H264Decoder :=
  if d.initialized && d.currentWidth == width && d.currentHeight == height then (.ok, d)
  else
    let codec : Codec := if r.create then some d.created else none
    let d := { d.call (.createDecoderByType codec) with
      codec := codec, created := if r.create then d.created + 1 else d.created }
    if codec.isNone then (.unknownError, d)
    else if !r.configure then
      (.unknownError, { (d.call (.configure codec)).call (.delete codec) with codec := none })
    else if !r.start then
      (.unknownError,
        { ((d.call (.configure codec)).call (.start codec)).call (.delete codec) with codec := none })
    else
      (.ok, { (d.call (.configure codec)).call (.start codec) with
        initialized := true, currentWidth := width, currentHeight := height })

def release (d : H264Decoder) : H264Decoder :=
  if !d.initialized then d
  else
    let d := if d.codec.isSome then
      { (d.call (.stop d.codec)).call (.delete d.codec) with codec := none } else d
    { d with initialized := false }

def reconfigure (width height : Nat) (r : Setup) (d : H264Decoder) : Status × H264Decoder :=
  initializeDecoder width height r (release d)

def decode (size : Nat) (o : Feed) (d : H264Decoder) : Status × H264Decoder :=
  if !d.initialized then (.invalidOperation, d)
  else
    let c := d.codec
    let (retry, index) :=
      if o.index = tryAgainLater then
        (processOutput c o.drainedOnRetry ++ [.dequeueInputBuffer c], o.retryIndex)
      else ([], o.index)
    let input :=
      if 0 ≤ index then [.getInputBuffer c, .queueInputBuffer c (if o.fits then size else 0)]
      else []
    (.ok, { d with calls := d.calls ++ (processOutput c o.drained ++ .dequeueInputBuffer c ::
      (retry ++ input ++ processOutput c o.drainedAfter)) })

end H264Decoder

inductive Action
  | initializeDecoder (width height : Nat) (r : Setup)
  | reconfigure (width height : Nat) (r : Setup)
  | release
  | decode (size : Nat) (o : Feed)
  deriving DecidableEq, Repr

def step : Action → H264Decoder → H264Decoder
  | .initializeDecoder width height r, d => (d.initializeDecoder width height r).2
  | .reconfigure width height r, d => (d.reconfigure width height r).2
  | .release, d => d.release
  | .decode size o, d => (d.decode size o).2

def run (as : List Action) (d : H264Decoder) : H264Decoder := as.foldl (fun d a => step a d) d

def Call.isDelete : Call → Bool
  | .delete _ => true
  | _ => false

def Call.audit (deleted : List Nat) (c : Call) : Option (List Nat) :=
  match c.codec? with
  | some (some h) => if h ∈ deleted then none else some (if c.isDelete then h :: deleted else deleted)
  | _ => some deleted

def audit (calls : List Call) : Option (List Nat) := calls.foldlM Call.audit []

def OnCodec (codec : Codec) (c : Call) : Prop := c.codec? = some codec ∧ ∀ e, c ≠ .delete e

theorem Call.audit_of_live {deleted : List Nat} {c : Call} (hc : ∀ d, c ≠ .delete d)
    (h : ∀ k, c.codec? = some (some k) → k ∉ deleted) : c.audit deleted = some deleted := by
  have hnd : c.isDelete = false := by cases c <;> first | rfl | exact absurd rfl (hc _)
  unfold Call.audit
  split
  · simp [h _ ‹_›, hnd]
  · rfl

theorem Call.subset_of_audit {deleted deleted' : List Nat} {c : Call}
    (h : c.audit deleted = some deleted') : deleted ⊆ deleted' := by
  unfold Call.audit at h
  split at h
  · split_ifs at h <;> cases h
    · exact List.subset_cons_self _ _
    · exact List.Subset.refl _
  · cases h
    exact List.Subset.refl _

theorem Call.audit_of_deleted {deleted : List Nat} {c : Call} {h : Nat}
    (hc : c.codec? = some (some h)) (hh : h ∈ deleted) : c.audit deleted = none := by
  simp [Call.audit, hc, hh]

theorem audit_onCodec {deleted : List Nat} {codec : Codec}
    (hcodec : ∀ k, codec = some k → k ∉ deleted) :
    ∀ {l : List Call}, (∀ c ∈ l, OnCodec codec c) → l.foldlM Call.audit deleted = some deleted
  | [], _ => rfl
  | c :: l, h => by
    obtain ⟨hc, hnd⟩ := h c (.head _)
    rw [List.foldlM_cons, Call.audit_of_live hnd fun k hk => hcodec k (by simpa [hc] using hk)]
    exact audit_onCodec hcodec fun c' hc' => h c' (.tail _ hc')

theorem processOutput_onCodec (codec : Codec) :
    ∀ l : List Dequeued, ∀ c ∈ processOutput codec l, OnCodec codec c
  | [] | .tryAgainLater :: _ | .otherError :: _ => List.forall_mem_singleton.2 ⟨rfl, nofun⟩
  | .outputFormatChanged :: rest => List.forall_mem_cons.2 ⟨⟨rfl, nofun⟩,
    List.forall_mem_cons.2 ⟨⟨rfl, nofun⟩, processOutput_onCodec codec rest⟩⟩
  | .buffer size mapped :: rest => by
    simp only [processOutput, List.forall_mem_cons, List.forall_mem_append]
    refine ⟨⟨rfl, nofun⟩, ?_, ⟨rfl, nofun⟩, processOutput_onCodec codec rest⟩
    split_ifs <;> simp [OnCodec, Call.codec?]

def Lifecycle (d : H264Decoder) : Prop :=
  ∃ deleted, audit d.calls = some deleted ∧ (∀ k ∈ deleted, k < d.created) ∧
    ∀ k, d.codec = some k → k < d.created ∧ k ∉ deleted

namespace H264Decoder

theorem lifecycle_init : Lifecycle {} := ⟨[], rfl, by simp, by simp⟩

theorem audit_append (calls new : List Call) :
    audit (calls ++ new) = (audit calls).bind fun deleted => new.foldlM Call.audit deleted := by
  simp only [audit, List.foldlM_append]
  rfl

theorem decode_calls (size : Nat) (o : Feed) (d : H264Decoder) :
    ∃ new, (d.decode size o).2 = { d with calls := d.calls ++ new } ∧
      ∀ c ∈ new, OnCodec d.codec c := by
  unfold decode
  split
  · exact ⟨[], by simp, by simp⟩
  refine ⟨_, rfl, ?_⟩
  have hp : ∀ l, (∀ c ∈ processOutput d.codec l, OnCodec d.codec c) = True :=
    fun l => eq_true (processOutput_onCodec d.codec l)
  have hd : OnCodec d.codec (.dequeueInputBuffer d.codec) := ⟨rfl, fun _ => Call.noConfusion⟩
  have hg : OnCodec d.codec (.getInputBuffer d.codec) := ⟨rfl, fun _ => Call.noConfusion⟩
  have hq : ∀ n, OnCodec d.codec (.queueInputBuffer d.codec n) := fun _ => ⟨rfl, fun _ => Call.noConfusion⟩
  generalize (if o.fits = true then size else 0) = n
  split_ifs <;> simp only [List.forall_mem_append, List.forall_mem_cons, List.forall_mem_nil, hp,
    hd, hg, hq, List.not_mem_nil, false_implies, implies_true, and_self]

theorem lifecycle_decode {d : H264Decoder} (size : Nat) (o : Feed) (hd : Lifecycle d) :
    Lifecycle (d.decode size o).2 := by
  obtain ⟨deleted, ha, hlt, hc⟩ := hd
  obtain ⟨new, he, hnew⟩ := decode_calls size o d
  rw [he]
  refine ⟨deleted, ?_, hlt, hc⟩
  rw [audit_append, ha, Option.some_bind]
  exact audit_onCodec (fun k hk => (hc k hk).2) hnew

theorem audit_call (d : H264Decoder) (c : Call) :
    audit (d.call c).calls = (audit d.calls).bind (Call.audit · c) := by
  simp [call, audit_append]

theorem lifecycle_initializeDecoder {d : H264Decoder} (width height : Nat) (r : Setup)
    (hd : Lifecycle d) : Lifecycle (d.initializeDecoder width height r).2 := by
  obtain ⟨deleted, ha, hlt, hc⟩ := hd
  have hfresh : d.created ∉ deleted := fun h => Nat.lt_irrefl _ (hlt _ h)
  have hlt' : ∀ k ∈ deleted, k < d.created + 1 := fun k hk => Nat.lt_succ_of_lt (hlt k hk)
  unfold initializeDecoder
  split
  · exact ⟨deleted, ha, hlt, hc⟩
  cases hcr : r.create
  · exact ⟨deleted, by simp [audit_call, ha, Call.audit, Call.codec?], hlt, by simp⟩
  · simp only [hcr, if_true, Option.isNone_some, Bool.false_eq_true, ↓reduceIte]
    split_ifs
    · refine ⟨d.created :: deleted, ?_, by simpa [call] using hlt', by simp⟩
      simp [audit_call, ha, Call.audit, Call.codec?, Call.isDelete, hfresh]
    · refine ⟨d.created :: deleted, ?_, by simpa [call] using hlt', by simp⟩
      simp [audit_call, ha, Call.audit, Call.codec?, Call.isDelete, hfresh]
    · refine ⟨deleted, ?_, by simpa [call] using hlt', by simpa [call] using hfresh⟩
      simp [audit_call, ha, Call.audit, Call.codec?, Call.isDelete, hfresh]

theorem lifecycle_release {d : H264Decoder} (hd : Lifecycle d) : Lifecycle d.release := by
  obtain ⟨deleted, ha, hlt, hc⟩ := hd
  unfold release
  split
  · exact ⟨deleted, ha, hlt, hc⟩
  cases hcd : d.codec with
  | none => exact ⟨deleted, ha, hlt, by simp [hcd]⟩
  | some k =>
    obtain ⟨hk, hkd⟩ := hc k hcd
    refine ⟨k :: deleted, ?_, ?_, by simp⟩
    · simp [audit_call, ha, Call.audit, Call.codec?, Call.isDelete, hkd]
    · simpa [call] using ⟨hk, hlt⟩

end H264Decoder

theorem lifecycle_step (a : Action) {d : H264Decoder} (hd : Lifecycle d) : Lifecycle (step a d) :=
  match a with
  | .initializeDecoder width height r => H264Decoder.lifecycle_initializeDecoder width height r hd
  | .reconfigure width height r =>
    H264Decoder.lifecycle_initializeDecoder width height r (H264Decoder.lifecycle_release hd)
  | .release => H264Decoder.lifecycle_release hd
  | .decode size o => H264Decoder.lifecycle_decode size o hd

theorem lifecycle_run : ∀ (as : List Action) {d : H264Decoder}, Lifecycle d → Lifecycle (run as d)
  | [], _, hd => hd
  | a :: as, _, hd => lifecycle_run as (lifecycle_step a hd)

theorem Call.mem_audit_delete {deleted deleted' : List Nat} {k : Nat}
    (h : Call.audit deleted (.delete (some k)) = some deleted') : k ∈ deleted' := by
  simp only [Call.audit, Call.codec?, Call.isDelete] at h
  split_ifs at h
  cases h
  exact List.mem_cons_self _ _

theorem foldlM_audit_subset :
    ∀ {l : List Call} {deleted result : List Nat}, l.foldlM Call.audit deleted = some result →
      deleted ⊆ result
  | [], _, _, h => by cases h; exact List.Subset.refl _
  | c :: l, deleted, result, h => by
    rw [List.foldlM_cons] at h
    cases hc : c.audit deleted with
    | none => simp [hc] at h
    | some deleted' =>
      simp only [hc, Option.bind_eq_bind, Option.some_bind] at h
      exact List.Subset.trans (Call.subset_of_audit hc) (foldlM_audit_subset h)

theorem mem_of_foldlM_audit {k : Nat} :
    ∀ {l : List Call} {deleted result : List Nat}, l.foldlM Call.audit deleted = some result →
      Call.delete (some k) ∈ l → k ∈ result
  | [], _, _, _, hm => absurd hm (List.not_mem_nil _)
  | c :: l, deleted, result, h, hm => by
    rw [List.foldlM_cons] at h
    cases hc : c.audit deleted with
    | none => simp [hc] at h
    | some deleted' =>
      simp only [hc, Option.bind_eq_bind, Option.some_bind] at h
      rcases List.mem_cons.1 hm with rfl | hm
      · exact foldlM_audit_subset h (Call.mem_audit_delete hc)
      · exact mem_of_foldlM_audit h hm

theorem foldlM_audit_not_on {h : Nat} :
    ∀ {post : List Call} {deleted result : List Nat}, h ∈ deleted →
      post.foldlM Call.audit deleted = some result → ∀ c ∈ post, c.codec? ≠ some (some h)
  | [], _, _, _, _, c, hc, _ => absurd hc (List.not_mem_nil _)
  | c :: post, deleted, result, hh, hr, c', hc', hon => by
    rw [List.foldlM_cons] at hr
    cases hcd : c.audit deleted with
    | none => simp [hcd] at hr
    | some deleted' =>
      simp only [hcd, Option.bind_eq_bind, Option.some_bind] at hr
      rcases List.mem_cons.1 hc' with rfl | hc'
      · simp [Call.audit_of_deleted hon hh] at hcd
      · exact foldlM_audit_not_on (Call.subset_of_audit hcd hh) hr c' hc' hon

theorem decoder_never_uses_deleted_codec (as : List Action) (pre post : List Call) (h : Nat)
    (hcalls : (run as {}).release.calls = pre ++ .delete (some h) :: post) :
    ∀ c ∈ post, c.codec? ≠ some (some h) := by
  obtain ⟨deleted, ha, -, -⟩ :=
    H264Decoder.lifecycle_release (lifecycle_run as H264Decoder.lifecycle_init)
  rw [hcalls, audit, List.foldlM_append] at ha
  cases hp : pre.foldlM Call.audit [] with
  | none => simp [hp] at ha
  | some d0 =>
    simp only [hp, List.foldlM_cons, Option.bind_eq_bind, Option.some_bind] at ha
    cases hd : Call.audit d0 (.delete (some h)) with
    | none => simp [hd] at ha
    | some d1 =>
      simp only [hd, Option.some_bind] at ha
      exact foldlM_audit_not_on (Call.mem_audit_delete hd) ha

theorem reconfigure_never_uses_codec_zero :
    [Call.createDecoderByType (some 1), .configure (some 1), .start (some 1), .stop (some 1),
      .delete (some 1)].all (·.codec? != some (some 0)) = true :=
  List.all_eq_true.2 fun c hc => bne_iff_ne.2 <| decoder_never_uses_deleted_codec
    [.initializeDecoder 640 480 ⟨true, true, true⟩, .reconfigure 1280 720 ⟨true, true, true⟩]
    [.createDecoderByType (some 0), .configure (some 0), .start (some 0), .stop (some 0)]
    [.createDecoderByType (some 1), .configure (some 1), .start (some 1), .stop (some 1),
      .delete (some 1)] 0 (by decide) c hc

namespace H264Decoder

theorem initializeDecoder_resize_failure {d : H264Decoder} {width height : Nat} {r : Setup}
    (hi : d.initialized = true) (hsize : (width, height) ≠ (d.currentWidth, d.currentHeight))
    (hfail : (r.create && r.configure && r.start) = false) :
    (d.initializeDecoder width height r).1 = .unknownError ∧
      (d.initializeDecoder width height r).2.initialized = true ∧
      (d.initializeDecoder width height r).2.codec = none := by
  have hne : ¬(d.initialized && d.currentWidth == width && d.currentHeight == height) = true := by
    simp only [hi, Bool.true_and, Bool.and_eq_true, beq_iff_eq]
    exact fun ⟨h1, h2⟩ => hsize (by rw [h1, h2])
  unfold initializeDecoder
  rw [if_neg hne]
  cases hcr : r.create <;> cases hco : r.configure <;> cases hst : r.start <;>
    simp_all [call]

theorem decode_on_null {d : H264Decoder} (hi : d.initialized = true) (hc : d.codec = none)
    (size : Nat) (o : Feed) : Call.dequeueInputBuffer none ∈ (d.decode size o).2.calls := by
  simp [decode, hi, hc]

end H264Decoder

def Orphan (d : H264Decoder) (k : Nat) : Prop :=
  k < d.created ∧ d.codec ≠ some k ∧ Call.delete (some k) ∉ d.calls

namespace H264Decoder
variable {d : H264Decoder} {k : Nat}

theorem orphan_initializeDecoder (width height : Nat) (r : Setup) (hk : Orphan d k) :
    Orphan (d.initializeDecoder width height r).2 k := by
  obtain ⟨hlt, hne, hnd⟩ := hk
  have hfresh : d.created ≠ k := Nat.ne_of_gt hlt
  unfold initializeDecoder
  split
  · exact ⟨hlt, hne, hnd⟩
  cases hcr : r.create
  · exact ⟨by simpa [call] using hlt, by simp, by simp [call, hnd]⟩
  · simp only [hcr, if_true, Option.isNone_some, Bool.false_eq_true, ↓reduceIte]
    split_ifs <;>
      exact ⟨by simp [call]; omega, by simp [call, hfresh], by simp [call, hnd, Ne.symm hfresh]⟩

theorem orphan_release (hk : Orphan d k) : Orphan d.release k := by
  obtain ⟨hlt, hne, hnd⟩ := hk
  unfold release
  split
  · exact ⟨hlt, hne, hnd⟩
  split
  · exact ⟨hlt, by simp, by simp [call, hnd, Ne.symm hne]⟩
  · exact ⟨hlt, hne, hnd⟩

theorem orphan_decode (size : Nat) (o : Feed) (hk : Orphan d k) : Orphan (d.decode size o).2 k := by
  obtain ⟨hlt, hne, hnd⟩ := hk
  obtain ⟨new, he, hnew⟩ := decode_calls size o d
  rw [he]
  refine ⟨hlt, hne, ?_⟩
  simp only [List.mem_append, not_or]
  exact ⟨hnd, fun h => (hnew _ h).2 _ rfl⟩

end H264Decoder

theorem orphan_step (a : Action) {d : H264Decoder} {k : Nat} (hk : Orphan d k) :
    Orphan (step a d) k :=
  match a with
  | .initializeDecoder width height r => H264Decoder.orphan_initializeDecoder width height r hk
  | .reconfigure width height r =>
    H264Decoder.orphan_initializeDecoder width height r (H264Decoder.orphan_release hk)
  | .release => H264Decoder.orphan_release hk
  | .decode size o => H264Decoder.orphan_decode size o hk

theorem orphan_run : ∀ (as : List Action) {d : H264Decoder} {k : Nat}, Orphan d k →
    Orphan (run as d) k
  | [], _, _, hk => hk
  | a :: as, _, _, hk => orphan_run as (orphan_step a hk)

theorem initializeDecoder_resize_leaks {d : H264Decoder} {width height k : Nat} {r : Setup}
    (hi : d.initialized = true) (hc : d.codec = some k) (hlive : Lifecycle d)
    (hsize : (width, height) ≠ (d.currentWidth, d.currentHeight)) (hcreate : r.create = true)
    (as : List Action) :
    Call.delete (some k) ∉ (run as (d.initializeDecoder width height r).2).release.calls := by
  obtain ⟨deleted, ha, -, hlive⟩ := hlive
  obtain ⟨hlt, hkd⟩ := hlive k hc
  have hnd : Call.delete (some k) ∉ d.calls := fun h => hkd (mem_of_foldlM_audit ha h)
  have hne : ¬(d.initialized && d.currentWidth == width && d.currentHeight == height) = true := by
    simp only [hi, Bool.true_and, Bool.and_eq_true, beq_iff_eq]
    exact fun ⟨h1, h2⟩ => hsize (by rw [h1, h2])
  have hfresh : k ≠ d.created := Nat.ne_of_lt hlt
  refine (H264Decoder.orphan_release (orphan_run as ?_)).2.2
  unfold H264Decoder.initializeDecoder
  simp only [if_neg hne, hcreate, if_true, Option.isNone_some, Bool.false_eq_true, ↓reduceIte]
  split_ifs <;>
    exact ⟨by simp [H264Decoder.call]; omega, by simp [H264Decoder.call, Ne.symm hfresh],
      by simp [H264Decoder.call, hnd, hfresh]⟩

theorem resize_leaks_codec_zero :
    Call.delete (some 0) ∉ ((run [.initializeDecoder 640 480 ⟨true, true, true⟩]
      {}).initializeDecoder 1280 720 ⟨true, true, true⟩).2.release.calls :=
  initializeDecoder_resize_leaks (by decide) (by decide)
    (lifecycle_run _ H264Decoder.lifecycle_init) (by decide) rfl []

def resizeFailureRun : List Action :=
  [.initializeDecoder 640 480 ⟨true, true, true⟩, .initializeDecoder 1280 720 ⟨false, true, true⟩,
   .decode 100 ⟨[], 0, [], 0, true, []⟩]

theorem resize_failure_decodes_on_null :
    ((run (resizeFailureRun.take 1) {}).initializeDecoder 1280 720 ⟨false, true, true⟩).1 =
        .unknownError ∧
      (run resizeFailureRun {}).initialized = true ∧ (run resizeFailureRun {}).codec = none ∧
      Call.dequeueInputBuffer none ∈ (run resizeFailureRun {}).calls ∧
      Call.createDecoderByType (some 0) ∈ (run resizeFailureRun {}).release.calls ∧
      Call.delete (some 0) ∉ (run resizeFailureRun {}).release.calls := by
  decide

end CameraService.Decoder
