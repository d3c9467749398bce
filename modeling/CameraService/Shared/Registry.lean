import Mathlib.Logic.Function.Basic
import Mathlib.Data.List.Nodup

/-! The registry through which the clients of one camera share one device object, with sessions
of the camera service as callers: safe under its discipline, and not when two calls interleave. -/

namespace CameraService.Shared

structure Registry where
  sharedDevices : String → Option Nat
  clientsPid : String → List Int
  deviceIds : List String
  disconnected : List Nat

namespace Registry

variable {r : Registry} {id : String} {d : Nat}

def empty : Registry := ⟨fun _ => none, fun _ => [], [], []⟩

def cameraIdOf (r : Registry) (d : Nat) : String := r.deviceIds.getD d ""

def Live (r : Registry) (d : Nat) : Prop := d < r.deviceIds.length ∧ d ∉ r.disconnected

instance (r : Registry) (d : Nat) : Decidable (r.Live d) := inferInstanceAs (Decidable (_ ∧ _))

def createIfNoClients (id : String) (r : Registry) : Registry :=
  if r.clientsPid id = [] then
    { r with
      sharedDevices := Function.update r.sharedDevices id (some r.deviceIds.length)
      deviceIds := r.deviceIds ++ [id] }
  else r

def recordClient (id : String) (callingPid : Option Int) (r : Registry) : Registry :=
  match callingPid with
  | some pid =>
    { r with clientsPid := Function.update r.clientsPid id ((r.clientsPid id).insert pid) }
  | none => r

def getInstance (id : String) (callingPid : Option Int) (r : Registry) : Option Nat × Registry :=
  let r := recordClient id callingPid (createIfNoClients id r)
  (r.sharedDevices id, r)

def eraseClient (device : Nat) (clientPid : Int) (r : Registry) : Registry :=
  { r with
    clientsPid := Function.update r.clientsPid (r.cameraIdOf device)
      ((r.clientsPid (r.cameraIdOf device)).erase clientPid) }

def disconnectIfNoClients (device : Nat) (r : Registry) : Registry :=
  if r.clientsPid (r.cameraIdOf device) = [] then
    { r with disconnected := r.disconnected ++ [device] }
  else r

def disconnectClient (device : Nat) (clientPid : Int) (r : Registry) : Registry :=
  disconnectIfNoClients device (eraseClient device clientPid r)

@[simp] theorem recordClient_none : recordClient id none r = r := rfl

@[simp] theorem recordClient_sharedDevices (callingPid : Option Int) :
    (recordClient id callingPid r).sharedDevices = r.sharedDevices := by
  cases callingPid <;> rfl

@[simp] theorem recordClient_deviceIds (callingPid : Option Int) :
    (recordClient id callingPid r).deviceIds = r.deviceIds := by
  cases callingPid <;> rfl

@[simp] theorem recordClient_disconnected (callingPid : Option Int) :
    (recordClient id callingPid r).disconnected = r.disconnected := by
  cases callingPid <;> rfl

@[simp] theorem createIfNoClients_clientsPid : (createIfNoClients id r).clientsPid = r.clientsPid := by
  unfold createIfNoClients; split <;> rfl

@[simp] theorem createIfNoClients_disconnected :
    (createIfNoClients id r).disconnected = r.disconnected := by
  unfold createIfNoClients; split <;> rfl

theorem cameraIdOf_append (hd : d < r.deviceIds.length) :
    (r.deviceIds ++ [id]).getD d "" = r.cameraIdOf d := by
  simp [cameraIdOf, List.getD_eq_getElem?_getD, List.getElem?_append_left hd]

theorem cameraIdOf_append_length : (r.deviceIds ++ [id]).getD r.deviceIds.length "" = id := by
  simp [List.getD_eq_getElem?_getD]

theorem getInstance_of_nil (h : r.clientsPid id = []) (pid : Int) :
    getInstance id (some pid) r =
      (some r.deviceIds.length,
        { sharedDevices := Function.update r.sharedDevices id (some r.deviceIds.length)
          clientsPid := Function.update r.clientsPid id [pid]
          deviceIds := r.deviceIds ++ [id]
          disconnected := r.disconnected }) := by
  simp [getInstance, createIfNoClients, recordClient, h]

theorem getInstance_of_ne_nil (h : r.clientsPid id ≠ []) (pid : Int) :
    getInstance id (some pid) r =
      (r.sharedDevices id,
        { r with clientsPid := Function.update r.clientsPid id ((r.clientsPid id).insert pid) }) := by
  simp [getInstance, createIfNoClients, recordClient, h]

theorem disconnectClient_eq (hd : r.cameraIdOf d = id) (pid : Int) :
    disconnectClient d pid r =
      { r with
        clientsPid := Function.update r.clientsPid id ((r.clientsPid id).erase pid)
        disconnected :=
          if (r.clientsPid id).erase pid = [] then r.disconnected ++ [d] else r.disconnected } := by
  subst hd
  have hc : (eraseClient d pid r).clientsPid (r.cameraIdOf d) =
      (r.clientsPid (r.cameraIdOf d)).erase pid := Function.update_same _ _ _
  unfold disconnectClient disconnectIfNoClients
  rw [show (eraseClient d pid r).cameraIdOf d = r.cameraIdOf d from rfl, hc]
  split <;> rfl

end Registry

/-- A client of a shared device, as the camera service keeps it (outside src/): the camera it
opened, the pid `getInstance` recorded for it, and the device `getInstance` returned. -/
structure Session where
  cameraId : String
  pid : Option Int
  device : Option Nat
  deriving DecidableEq

def Session.key (t : Session) : String × Option Int := (t.cameraId, t.pid)

structure Service where
  registry : Registry
  sessions : List Session

inductive Request
  | connect (id : String) (callingPid : Option Int)
  | disconnect (session : Session) (clientPid : Int)

def Request.apply : Request → Service → Service
  | .connect id callingPid, s =>
    ⟨(s.registry.getInstance id callingPid).2,
      s.sessions ++ [⟨id, callingPid, (s.registry.getInstance id callingPid).1⟩]⟩
  | .disconnect session clientPid, s =>
    if session ∈ s.sessions then
      ⟨match session.device with
        | some d => s.registry.disconnectClient d clientPid
        | none => s.registry,
        s.sessions.erase session⟩
    else s

def Request.Allowed (s : Service) : Request → Prop
  | .connect id callingPid =>
    callingPid.isSome ∧ ∀ t ∈ s.sessions, t.cameraId = id → t.pid ≠ callingPid
  | .disconnect session clientPid => session.pid = some clientPid

instance (s : Service) : (a : Request) → Decidable (a.Allowed s)
  | .connect _ _ => inferInstanceAs (Decidable (_ ∧ _))
  | .disconnect _ _ => inferInstanceAs (Decidable (_ = _))

inductive Reachable : Service → Prop
  | init : Reachable ⟨.empty, []⟩
  | step {s : Service} {a : Request} : Reachable s → a.Allowed s → Reachable (a.apply s)

structure Safe (s : Service) : Prop where
  held : ∀ t ∈ s.sessions, ∃ d, t.device = some d ∧ s.registry.Live d
  shared : ∀ t ∈ s.sessions, ∀ t' ∈ s.sessions, t.cameraId = t'.cameraId → t.device = t'.device
  released : ∀ d, s.registry.Live d → ∃ t ∈ s.sessions, t.device = some d
  one_live : ∀ d d', s.registry.Live d → s.registry.Live d' →
    s.registry.cameraIdOf d = s.registry.cameraIdOf d' → d = d'

structure Inv (s : Service) : Prop where
  keys : (s.sessions.map Session.key).Nodup
  pids : ∀ id, (s.registry.clientsPid id).Nodup
  devices : ∀ id d, s.registry.sharedDevices id = some d →
    d < s.registry.deviceIds.length ∧ s.registry.cameraIdOf d = id
  created : ∀ d ∈ s.registry.disconnected, d < s.registry.deviceIds.length
  session : ∀ t ∈ s.sessions, ∃ p d, t.pid = some p ∧ t.device = some d ∧
    p ∈ s.registry.clientsPid t.cameraId ∧ s.registry.sharedDevices t.cameraId = some d ∧
    s.registry.Live d
  client : ∀ id p, p ∈ s.registry.clientsPid id →
    ∃ t ∈ s.sessions, t.cameraId = id ∧ t.pid = some p
  live : ∀ d, s.registry.Live d → s.registry.clientsPid (s.registry.cameraIdOf d) ≠ [] ∧
    s.registry.sharedDevices (s.registry.cameraIdOf d) = some d

namespace Inv

variable {s : Service}

theorem init : Inv ⟨.empty, []⟩ :=
  ⟨List.nodup_nil, fun _ => List.nodup_nil, by simp [Registry.empty], by simp [Registry.empty],
    by simp, by simp [Registry.empty], fun _ h => absurd h.1 (by simp [Registry.empty])⟩

theorem safe (hi : Inv s) : Safe s where
  held t ht := by
    obtain ⟨-, d, -, hd, -, -, hl⟩ := hi.session t ht
    exact ⟨d, hd, hl⟩
  shared t ht t' ht' hid := by
    obtain ⟨-, d, -, hd, -, hs, -⟩ := hi.session t ht
    obtain ⟨-, d', -, hd', -, hs', -⟩ := hi.session t' ht'
    rw [hd, hd', ← Option.some_inj, ← hs, ← hs', hid]
  released d hl := by
    obtain ⟨hne, hs⟩ := hi.live d hl
    obtain ⟨p, hp⟩ := List.exists_mem_of_ne_nil _ hne
    obtain ⟨t, ht, hid, -⟩ := hi.client _ p hp
    obtain ⟨-, d', -, hd', -, hs', -⟩ := hi.session t ht
    exact ⟨t, ht, by rw [hd', ← hs', ← hs, hid]⟩
  one_live d d' hl hl' hid := by
    have h := (hi.live d hl).2
    rw [hid, (hi.live d' hl').2] at h
    exact (Option.some_inj.1 h).symm

theorem sessions_nodup (hi : Inv s) : s.sessions.Nodup := hi.keys.of_map _

theorem cameraId_ne_of_nil (hi : Inv s) {id : String} (h : s.registry.clientsPid id = []) :
    ∀ t ∈ s.sessions, t.cameraId ≠ id := fun t ht hid => by
  obtain ⟨q, -, -, -, hq, -, -⟩ := hi.session t ht
  rw [hid, h] at hq
  exact List.not_mem_nil q hq

theorem connect_of_nil (hi : Inv s) {id : String} {p : Int} (h : s.registry.clientsPid id = []) :
    Inv ((Request.connect id (some p)).apply s) := by
  have hnone := hi.cameraId_ne_of_nil h
  have hfresh : s.registry.deviceIds.length ∉ s.registry.disconnected :=
    fun hm => (hi.created _ hm).false
  simp only [Request.apply, Registry.getInstance_of_nil h]
  constructor <;> dsimp only [Registry.Live, Registry.cameraIdOf]
  · rw [List.map_append, List.nodup_append]
    refine ⟨hi.keys, List.nodup_singleton _, fun k hk hk' => ?_⟩
    obtain ⟨t, ht, rfl⟩ := List.mem_map.1 hk
    exact hnone t ht (congrArg Prod.fst (List.mem_singleton.1 hk'))
  · intro id'
    by_cases hid : id' = id
    · subst hid; simp
    · simpa [Function.update_noteq hid] using hi.pids id'
  · intro id' d hd
    by_cases hid : id' = id
    · subst hid
      simp only [Function.update_same, Option.some_inj] at hd
      subst hd
      exact ⟨by simp, Registry.cameraIdOf_append_length⟩
    · rw [Function.update_noteq hid] at hd
      obtain ⟨hlt, hc⟩ := hi.devices id' d hd
      exact ⟨by simp; omega, (Registry.cameraIdOf_append hlt).trans hc⟩
  · intro d hd
    have := hi.created d hd
    simp; omega
  · intro t ht
    rcases List.mem_append.1 ht with ht | ht
    · obtain ⟨q, d, hq, hd, hqm, hsd, hl⟩ := hi.session t ht
      refine ⟨q, d, hq, hd, ?_, ?_, by simp [Nat.lt_succ_of_lt hl.1], hl.2⟩
      · rwa [Function.update_noteq (hnone t ht)]
      · rwa [Function.update_noteq (hnone t ht)]
    · obtain rfl := List.mem_singleton.1 ht
      exact ⟨p, _, rfl, rfl, by simp, by simp, by simp, hfresh⟩
  · intro id' q hq
    by_cases hid : id' = id
    · subst hid
      simp only [Function.update_same, List.mem_singleton] at hq
      exact ⟨_, List.mem_append_right _ (List.mem_singleton_self _), rfl, by rw [hq]⟩
    · rw [Function.update_noteq hid] at hq
      obtain ⟨t, ht, hrest⟩ := hi.client id' q hq
      exact ⟨t, List.mem_append_left _ ht, hrest⟩
  · rintro d ⟨hlt, hd⟩
    simp only [List.length_append, List.length_singleton] at hlt
    rcases Nat.lt_succ_iff_lt_or_eq.1 hlt with hlt | rfl
    · obtain ⟨hne, hs⟩ := hi.live d ⟨hlt, hd⟩
      have hid : s.registry.cameraIdOf d ≠ id := fun hc => hne (hc ▸ h)
      rw [Registry.cameraIdOf_append hlt, Function.update_noteq hid, Function.update_noteq hid]
      exact ⟨hne, hs⟩
    · rw [Registry.cameraIdOf_append_length]
      simp

theorem connect_of_ne_nil (hi : Inv s) {id : String} {p : Int} (h : s.registry.clientsPid id ≠ [])
    (hp : ∀ t ∈ s.sessions, t.cameraId = id → t.pid ≠ some p) :
    Inv ((Request.connect id (some p)).apply s) := by
  obtain ⟨q, hq⟩ := List.exists_mem_of_ne_nil _ h
  obtain ⟨t₀, ht₀, hid₀, -⟩ := hi.client id q hq
  obtain ⟨-, d₀, -, -, -, hsd₀, hl₀⟩ := hi.session t₀ ht₀
  rw [hid₀] at hsd₀
  have hsub : ∀ id' q, q ∈ s.registry.clientsPid id' →
      q ∈ Function.update s.registry.clientsPid id ((s.registry.clientsPid id).insert p) id' := by
    intro id' q' hq'
    by_cases hid : id' = id
    · subst hid; simpa using .inr hq'
    · rwa [Function.update_noteq hid]
  simp only [Request.apply, Registry.getInstance_of_ne_nil h, hsd₀]
  constructor <;> dsimp only [Registry.Live, Registry.cameraIdOf]
  · rw [List.map_append, List.nodup_append]
    refine ⟨hi.keys, List.nodup_singleton _, fun k hk hk' => ?_⟩
    obtain ⟨t, ht, rfl⟩ := List.mem_map.1 hk
    have he := List.mem_singleton.1 hk'
    exact hp t ht (congrArg Prod.fst he) (congrArg Prod.snd he)
  · intro id'
    by_cases hid : id' = id
    · subst hid; simpa using (hi.pids id').insert
    · simpa [Function.update_noteq hid] using hi.pids id'
  · exact hi.devices
  · exact hi.created
  · intro t ht
    rcases List.mem_append.1 ht with ht | ht
    · obtain ⟨q, d, hq, hd, hqm, hsd, hl⟩ := hi.session t ht
      exact ⟨q, d, hq, hd, hsub _ _ hqm, hsd, hl⟩
    · obtain rfl := List.mem_singleton.1 ht
      exact ⟨p, d₀, rfl, rfl, by simp, hsd₀, hl₀⟩
  · intro id' q hq
    by_cases hid : id' = id
    · subst hid
      simp only [Function.update_same, List.mem_insert_iff] at hq
      rcases hq with rfl | hq
      · exact ⟨_, List.mem_append_right _ (List.mem_singleton_self _), rfl, rfl⟩
      · obtain ⟨t, ht, hrest⟩ := hi.client id' q hq
        exact ⟨t, List.mem_append_left _ ht, hrest⟩
    · rw [Function.update_noteq hid] at hq
      obtain ⟨t, ht, hrest⟩ := hi.client id' q hq
      exact ⟨t, List.mem_append_left _ ht, hrest⟩
  · intro d hl
    obtain ⟨hne, hs⟩ := hi.live d hl
    obtain ⟨q, hq⟩ := List.exists_mem_of_ne_nil _ hne
    exact ⟨List.ne_nil_of_mem (hsub _ q hq), hs⟩

theorem disconnect (hi : Inv s) {session : Session} {p : Int} (hp : session.pid = some p) :
    Inv ((Request.disconnect session p).apply s) := by
  by_cases hm : session ∈ s.sessions
  swap
  · simpa [Request.apply, hm] using hi
  obtain ⟨q, d, hq, hd, hqm, hsd, hl⟩ := hi.session session hm
  rw [hp, Option.some_inj] at hq
  subst hq
  have hc := (hi.devices _ d hsd).2
  have hmem : ∀ t ∈ s.sessions.erase session, t ∈ s.sessions ∧ t ≠ session :=
    fun t ht => (hi.sessions_nodup.mem_erase_iff.1 ht).symm
  have hother : ∀ t ∈ s.sessions, t ≠ session → t.cameraId = session.cameraId →
      t.pid ≠ some p := fun t ht hne hid hpid =>
    hne (List.inj_on_of_nodup_map hi.keys ht hm (by simp [Session.key, hid, hpid, hp]))
  simp only [Request.apply, if_pos hm, hd, Registry.disconnectClient_eq hc]
  constructor <;> dsimp only [Registry.Live, Registry.cameraIdOf]
  · exact hi.keys.sublist ((List.erase_sublist _ _).map _)
  · intro id'
    by_cases hid : id' = session.cameraId
    · subst hid; simpa using (hi.pids _).erase p
    · simpa [Function.update_noteq hid] using hi.pids id'
  · exact hi.devices
  · intro d' hd'
    split at hd'
    · rcases List.mem_append.1 hd' with hd' | hd'
      · exact hi.created d' hd'
      · rw [List.mem_singleton.1 hd']; exact hl.1
    · exact hi.created d' hd'
  · intro t ht
    obtain ⟨ht, hne⟩ := hmem t ht
    obtain ⟨q', dt, hq', hdt, hqm', hsdt, hlt⟩ := hi.session t ht
    by_cases hid : t.cameraId = session.cameraId
    · have hqe : q' ∈ (s.registry.clientsPid session.cameraId).erase p :=
        (List.mem_erase_of_ne fun e => hother t ht hne hid (by rw [hq', e])).2 (hid ▸ hqm')
      refine ⟨q', dt, hq', hdt, by rw [hid, Function.update_same]; exact hqe, hsdt, hlt.1, ?_⟩
      rw [if_neg (List.ne_nil_of_mem hqe)]
      exact hlt.2
    · refine ⟨q', dt, hq', hdt, by rwa [Function.update_noteq hid], hsdt, hlt.1, ?_⟩
      have hdt : dt ≠ d := fun e => hid (by rw [← (hi.devices _ dt hsdt).2, e, hc])
      split <;> simp [hdt, hlt.2]
  · intro id' q' hq'
    by_cases hid : id' = session.cameraId
    · subst hid
      rw [Function.update_same] at hq'
      obtain ⟨hqq, hq'⟩ := (hi.pids _).mem_erase_iff.1 hq'
      obtain ⟨t, ht, hid', hpid⟩ := hi.client _ q' hq'
      refine ⟨t, (List.mem_erase_of_ne ?_).2 ht, hid', hpid⟩
      rintro rfl
      exact hqq (Option.some_inj.1 (hpid.symm.trans hp))
    · rw [Function.update_noteq hid] at hq'
      obtain ⟨t, ht, hid', hpid⟩ := hi.client id' q' hq'
      exact ⟨t, (List.mem_erase_of_ne (by rintro rfl; exact hid hid'.symm)).2 ht, hid', hpid⟩
  · rintro d' ⟨hlt, hd'⟩
    have hold : d' ∉ s.registry.disconnected := fun h => hd' (by split <;> simp [h])
    obtain ⟨hne, hs⟩ := hi.live d' ⟨hlt, hold⟩
    unfold Registry.cameraIdOf at hne hs
    by_cases hid : s.registry.deviceIds.getD d' "" = session.cameraId
    · have hdd : d' = d := by rw [hid, hsd, Option.some_inj] at hs; exact hs.symm
      refine ⟨fun h0 => hd' ?_, hs⟩
      rw [hid, Function.update_same] at h0
      simp [h0, hdd]
    · exact ⟨by rwa [Function.update_noteq hid], hs⟩

theorem step (hi : Inv s) {a : Request} (ha : a.Allowed s) : Inv (a.apply s) := by
  cases a with
  | connect id callingPid =>
    obtain ⟨hsome, hp⟩ := ha
    obtain ⟨p, rfl⟩ := Option.isSome_iff_exists.1 hsome
    by_cases h : s.registry.clientsPid id = []
    · exact hi.connect_of_nil h
    · exact hi.connect_of_ne_nil h hp
  | disconnect session clientPid => exact hi.disconnect ha

end Inv

theorem Reachable.inv {s : Service} (h : Reachable s) : Inv s := by
  induction h with
  | init => exact Inv.init
  | step _ ha ih => exact ih.step ha

theorem reachable_safe {s : Service} (h : Reachable s) : Safe s := h.inv.safe

def oneClient : Service := (Request.connect "0" (some 1)).apply ⟨.empty, []⟩

theorem oneClient_reachable : Reachable oneClient := .step .init (by decide)

theorem oneClient_sessions : oneClient.sessions = [⟨"0", some 1, some 0⟩] := by decide

theorem reachable_safe_handover :
    Safe ((Request.disconnect ⟨"0", some 1, some 0⟩ 1).apply
      ((Request.connect "0" (some 2)).apply oneClient)) :=
  reachable_safe (.step (.step oneClient_reachable (by decide)) (by decide))

namespace Inv

variable {s : Service}

theorem clientsPid_eq_singleton (hi : Inv s) {t : Session} (ht : t ∈ s.sessions) {p : Int}
    (hp : t.pid = some p) (halone : ∀ t' ∈ s.sessions, t'.cameraId = t.cameraId → t' = t) :
    s.registry.clientsPid t.cameraId = [p] := by
  obtain ⟨q, -, hq, -, hqm, -, -⟩ := hi.session t ht
  rw [hp, Option.some_inj] at hq
  subst hq
  have hrep := List.eq_replicate_iff.2 ⟨rfl, fun q' hq' => by
    obtain ⟨t', ht', hid, hpid⟩ := hi.client _ q' hq'
    rw [halone t' ht' hid, hp] at hpid
    exact (Option.some_inj.1 hpid).symm⟩
  have hle := List.nodup_replicate.1 (hrep ▸ hi.pids t.cameraId)
  have hpos := List.length_pos_of_mem hqm
  rw [hrep, show (s.registry.clientsPid t.cameraId).length = 1 by omega]
  rfl

end Inv

theorem connect_without_attribution_unsafe {s : Service} (hs : Reachable s) {id : String}
    (hnone : ∀ t ∈ s.sessions, t.cameraId ≠ id) (callingPid : Option Int) :
    ¬ Safe ((Request.connect id callingPid).apply ((Request.connect id none).apply s)) := by
  intro hsafe
  have hi := hs.inv
  have hnil : s.registry.clientsPid id = [] := List.eq_nil_iff_forall_not_mem.2 fun p hp => by
    obtain ⟨t, ht, hid, -⟩ := hi.client id p hp
    exact hnone t ht hid
  have hn : ∀ k, s.registry.deviceIds.length ≤ k → k ∉ s.registry.disconnected :=
    fun k hk hm => by have := hi.created _ hm; omega
  have := hsafe.one_live s.registry.deviceIds.length (s.registry.deviceIds.length + 1)
  simp [Request.apply, Registry.getInstance, Registry.createIfNoClients, Registry.Live,
    Registry.cameraIdOf, hnil, hn, List.getD_eq_getElem?_getD, List.getElem_append_right] at this

theorem connect_without_attribution_unsafe_init :
    ¬ Safe ((Request.connect "0" (some 1)).apply ((Request.connect "0" none).apply ⟨.empty, []⟩)) :=
  connect_without_attribution_unsafe .init (by simp) (some 1)

theorem reconnect_same_pid_unsafe {s : Service} (hs : Reachable s) {t : Session}
    (ht : t ∈ s.sessions) {p : Int} (hp : t.pid = some p)
    (halone : ∀ t' ∈ s.sessions, t'.cameraId = t.cameraId → t' = t) :
    ¬ Safe ((Request.disconnect t p).apply ((Request.connect t.cameraId (some p)).apply s)) := by
  intro hsafe
  have hi := hs.inv
  have hpids := hi.clientsPid_eq_singleton ht hp halone
  obtain ⟨q, d, hq, hd, -, hsd, -⟩ := hi.session t ht
  have hc := (hi.devices _ d hsd).2
  have ht' : t = ⟨t.cameraId, some p, some d⟩ := by rw [← hp, ← hd]
  simp only [Request.apply, Registry.getInstance_of_ne_nil (hpids ▸ List.cons_ne_nil p []), hsd,
    if_pos (List.mem_append_left _ ht), hd, List.erase_append_left _ ht] at hsafe
  obtain ⟨d', hd', hl⟩ := hsafe.held t (List.mem_append_right _ (by rw [← ht']; simp))
  rw [hd, Option.some_inj] at hd'
  subst hd'
  rw [Registry.disconnectClient_eq (by exact hc)] at hl
  exact hl.2 (by simp [hpids])

inductive Step
  | createIfNoClients (id : String)
  | recordClient (id : String) (callingPid : Option Int)
  | eraseClient (device : Nat) (clientPid : Int)
  | disconnectIfNoClients (device : Nat)
  deriving DecidableEq

def Step.apply : Step → Registry → Registry
  | .createIfNoClients id, r => r.createIfNoClients id
  | .recordClient id callingPid, r => r.recordClient id callingPid
  | .eraseClient device clientPid, r => r.eraseClient device clientPid
  | .disconnectIfNoClients device, r => r.disconnectIfNoClients device

def runSteps (steps : List Step) (r : Registry) : Registry := steps.foldl (fun r st => st.apply r) r

def getInstanceSteps (id : String) (callingPid : Option Int) : List Step :=
  [.createIfNoClients id, .recordClient id callingPid]

def disconnectClientSteps (device : Nat) (clientPid : Int) : List Step :=
  [.eraseClient device clientPid, .disconnectIfNoClients device]

theorem runSteps_getInstanceSteps (r : Registry) (id : String) (callingPid : Option Int) :
    runSteps (getInstanceSteps id callingPid) r = (r.getInstance id callingPid).2 := rfl

theorem runSteps_disconnectClientSteps (r : Registry) (device : Nat) (clientPid : Int) :
    runSteps (disconnectClientSteps device clientPid) r = r.disconnectClient device clientPid := rfl

def interleave {α : Type} : List Bool → List α → List α → List α
  | true :: turns, x :: xs, ys => x :: interleave turns xs ys
  | false :: turns, xs, y :: ys => y :: interleave turns xs ys
  | _, xs, ys => xs ++ ys

def connectDuring (turns : List Bool) (id : String) (callingPid : Option Int) (session : Session)
    (device : Nat) (clientPid : Int) (s : Service) : Service :=
  ⟨runSteps (interleave turns (getInstanceSteps id callingPid)
      (disconnectClientSteps device clientPid)) s.registry,
    s.sessions.erase session ++
      [⟨id, callingPid, (runSteps (interleave turns (getInstanceSteps id callingPid)
        (disconnectClientSteps device clientPid)) s.registry).sharedDevices id⟩]⟩

namespace Registry

variable {r : Registry} {id : String} {d : Nat}

@[simp] theorem disconnectClient_sharedDevices (pid : Int) :
    (r.disconnectClient d pid).sharedDevices = r.sharedDevices := by
  unfold disconnectClient disconnectIfNoClients; split <;> rfl

theorem createIfNoClients_of_ne_nil (h : r.clientsPid id ≠ []) : r.createIfNoClients id = r :=
  if_neg h

theorem disconnectIfNoClients_of_ne_nil (h : r.clientsPid (r.cameraIdOf d) ≠ []) :
    r.disconnectIfNoClients d = r :=
  if_neg h

theorem eraseClient_eq (hd : r.cameraIdOf d = id) (pid : Int) :
    r.eraseClient d pid =
      { r with clientsPid := Function.update r.clientsPid id ((r.clientsPid id).erase pid) } := by
  subst hd; rfl

end Registry

variable {s : Service} {session : Session} {id : String} {callingPid : Option Int} {device : Nat}
  {clientPid : Int}

theorem runSteps_append (xs ys : List Step) (r : Registry) :
    runSteps (xs ++ ys) r = runSteps ys (runSteps xs r) := List.foldl_append _ _ _ _

theorem getInstance_fst (r : Registry) :
    (r.getInstance id callingPid).1 = (r.getInstance id callingPid).2.sharedDevices id := rfl

theorem connectDuring_connect_first (hm : session ∈ s.sessions)
    (hd : session.device = some device) :
    connectDuring [true, true] id callingPid session device clientPid s =
      (Request.disconnect session clientPid).apply ((Request.connect id callingPid).apply s) := by
  have h : interleave [true, true] (getInstanceSteps id callingPid)
      (disconnectClientSteps device clientPid) =
      getInstanceSteps id callingPid ++ disconnectClientSteps device clientPid := rfl
  simp [connectDuring, h, runSteps_append, runSteps_getInstanceSteps,
    runSteps_disconnectClientSteps, Request.apply, hm, hd, List.erase_append_left _ hm,
    getInstance_fst]

theorem connectDuring_disconnect_first (hm : session ∈ s.sessions)
    (hd : session.device = some device) :
    connectDuring [false, false] id callingPid session device clientPid s =
      (Request.connect id callingPid).apply ((Request.disconnect session clientPid).apply s) := by
  have h : interleave [false, false] (getInstanceSteps id callingPid)
      (disconnectClientSteps device clientPid) =
      disconnectClientSteps device clientPid ++ getInstanceSteps id callingPid := rfl
  simp [connectDuring, h, runSteps_append, runSteps_getInstanceSteps,
    runSteps_disconnectClientSteps, Request.apply, hm, hd, getInstance_fst]

theorem getInstance_races_disconnectClient (hs : Reachable s) {t : Session}
    (ht : t ∈ s.sessions) {p : Int} (hp : t.pid = some p) {d : Nat} (hd : t.device = some d)
    (halone : ∀ t' ∈ s.sessions, t'.cameraId = t.cameraId → t' = t) {q : Int} (hq : q ≠ p) :
    Safe (connectDuring [true, true] t.cameraId (some q) t d p s) ∧
    Safe (connectDuring [false, false] t.cameraId (some q) t d p s) ∧
    ¬ Safe (connectDuring [true, false, false] t.cameraId (some q) t d p s) ∧
    ¬ Safe (connectDuring [false, true, true] t.cameraId (some q) t d p s) := by
  have hi := hs.inv
  have hpids := hi.clientsPid_eq_singleton ht hp halone
  obtain ⟨-, d₀, -, hd₀, -, hsd, hl⟩ := hi.session t ht
  rw [hd, Option.some_inj] at hd₀
  subst hd₀
  have hc : s.registry.cameraIdOf d = t.cameraId := (hi.devices _ d hsd).2
  have hne : s.registry.clientsPid t.cameraId ≠ [] := by simp [hpids]
  have hnew : ∀ t' ∈ s.sessions, t'.cameraId = t.cameraId → t'.pid ≠ some q :=
    fun t' ht' hid hpid => hq (Option.some_inj.1 (hpid.symm.trans (halone t' ht' hid ▸ hp)))
  refine ⟨?_, ?_, fun hsafe => ?_, fun hsafe => ?_⟩
  · rw [connectDuring_connect_first ht hd]
    exact ((hs.step (a := .connect t.cameraId (some q)) ⟨rfl, hnew⟩).step
      (a := .disconnect t p) hp).inv.safe
  · rw [connectDuring_disconnect_first ht hd]
    have hallowed : (Request.connect t.cameraId (some q)).Allowed ((Request.disconnect t p).apply s) :=
      ⟨rfl, fun t' ht' => by
        simp only [Request.apply, if_pos ht] at ht'
        exact hnew t' (List.mem_of_mem_erase ht')⟩
    exact ((hs.step (a := .disconnect t p) hp).step hallowed).inv.safe
  · obtain ⟨d', hd', hl'⟩ := hsafe.held _ (List.mem_append_right _ (List.mem_singleton_self _))
    have hrun : runSteps (interleave [true, false, false] (getInstanceSteps t.cameraId (some q))
        (disconnectClientSteps d p)) s.registry =
        ((s.registry.createIfNoClients t.cameraId).disconnectClient d p).recordClient t.cameraId
          (some q) := rfl
    simp only [connectDuring, hrun, Registry.createIfNoClients_of_ne_nil hne,
      Registry.recordClient_sharedDevices, Registry.disconnectClient_sharedDevices, hsd,
      Option.some_inj] at hd'
    subst hd'
    rw [connectDuring, hrun, Registry.createIfNoClients_of_ne_nil hne,
      Registry.Live, Registry.recordClient_disconnected, Registry.disconnectClient_eq hc] at hl'
    exact hl'.2 (by simp [hpids])
  · have hn := hsafe.one_live d s.registry.deviceIds.length
    have hrun : runSteps (interleave [false, true, true] (getInstanceSteps t.cameraId (some q))
        (disconnectClientSteps d p)) s.registry =
        ((s.registry.eraseClient d p).getInstance t.cameraId (some q)).2.disconnectIfNoClients d := by
      simp only [runSteps, interleave, getInstanceSteps, disconnectClientSteps, List.foldl,
        Step.apply]
      rfl
    rw [connectDuring, hrun, Registry.eraseClient_eq hc, Registry.getInstance_of_nil (by simp [hpids]),
      Registry.disconnectIfNoClients_of_ne_nil] at hn
    · have hfresh : s.registry.deviceIds.length ∉ s.registry.disconnected :=
        fun hm => (hi.created _ hm).false
      have := hn ⟨by simp [hl.1.trans (Nat.lt_succ_self _)], hl.2⟩ ⟨by simp, hfresh⟩
        (by simp only [Registry.cameraIdOf]
            rw [Registry.cameraIdOf_append hl.1, hc, Registry.cameraIdOf_append_length])
      exact absurd hl.1 (by omega)
    · simp only [Registry.cameraIdOf]
      rw [Registry.cameraIdOf_append hl.1, hc]
      simp

theorem reconnect_same_pid_unsafe_oneClient :
    ¬ Safe ((Request.disconnect ⟨"0", some 1, some 0⟩ 1).apply
      ((Request.connect "0" (some 1)).apply oneClient)) :=
  reconnect_same_pid_unsafe oneClient_reachable (by simp [oneClient_sessions]) rfl
    (by simp [oneClient_sessions])

theorem getInstance_races_disconnectClient_oneClient :
    Safe (connectDuring [true, true] "0" (some 2) ⟨"0", some 1, some 0⟩ 0 1 oneClient) ∧
    Safe (connectDuring [false, false] "0" (some 2) ⟨"0", some 1, some 0⟩ 0 1 oneClient) ∧
    ¬ Safe (connectDuring [true, false, false] "0" (some 2) ⟨"0", some 1, some 0⟩ 0 1 oneClient) ∧
    ¬ Safe (connectDuring [false, true, true] "0" (some 2) ⟨"0", some 1, some 0⟩ 0 1 oneClient) :=
  getInstance_races_disconnectClient (t := ⟨"0", some 1, some 0⟩) oneClient_reachable
    (by simp [oneClient_sessions]) rfl rfl (by simp [oneClient_sessions]) (by decide)

end CameraService.Shared
