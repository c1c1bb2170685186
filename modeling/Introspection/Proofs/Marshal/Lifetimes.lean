import Introspection.Proofs.Invoke.Frame

/-!
# Callback lifetimes

A callback handed to native code is a frame and a trampoline at a code address. Its lifetime
ends once: at the release of the scope it was recorded in (call scope), at the end of its first
call (async), at the first release naming its address (notified scope and signal handlers), or
never (forever). Ending it marks the frame released and frees the trampoline; a frame released
before is left alone, so a later release, scope release or notification does nothing.

Installing a callback makes its host library answer at a new address with the frame's
trampoline. Every release path (a frame, a scope, a notified callback) moves the session along
`Ends`: released frames stay released, a trampoline that stopped answering never answers again,
and a frame released in between no longer answers at its address. A release fails only on a
frame whose converter is not over a host library, so in a session of host libraries every
release returns. The nested releases are bounded by fuel; the statements here hold for every
amount of it. The destroy notifier a converter hands out for notified callbacks is made once.
-/

namespace List

variable {κ ν : Type} [BEq κ] [LawfulBEq κ]

theorem filter_of_lookup_eq_none {l : List (κ × ν)} {k : κ} (h : l.lookup k = none) :
    l.filter (·.1 != k) = l := by
  induction l with
  | nil => rfl
  | cons e rest ih =>
      obtain ⟨m, v⟩ := e
      have hne : (k == m) = false := by
        cases hkm : k == m
        · rfl
        · rw [List.lookup_cons, hkm] at h
          cases h
      rw [List.lookup_cons, hne] at h
      have hkeep : (m != k) = true := by
        rw [bne_iff_ne]
        intro hmk
        rw [hmk, beq_self_eq_true] at hne
        cases hne
      rw [List.filter_cons, if_pos hkeep, ih h]

end List

namespace Introspection.Host.Library

/-- Whether a library answers at a code address with the live trampoline of a frame. -/
def Runs (l : Library) (addr fid : Nat) : Prop :=
  ∃ id, l.lookup addr = some id ∧ (l.fn id).callback = true ∧ (l.fn id).body = .trampoline fid

theorem fn_of_push {l l' : Library} {f : HostFn} (h : l'.fns = l.fns.push f) (id : Nat) :
    l'.fn id = if id = l.fns.size then f else l.fn id := by
  simp only [fn, h, Array.getD_eq_getD_getElem?, Array.getElem?_push]
  split <;> rfl

theorem runs_of_added {l l' : Library} {f : HostFn} {addr fid : Nat} {rest : List (Nat × Nat)}
    (hfns : l'.fns = l.fns.push f) (haddrs : l'.addrs = (addr, l.fns.size) :: rest)
    (hcb : f.callback = true) (hbody : f.body = .trampoline fid) : l'.Runs addr fid := by
  refine ⟨l.fns.size, by simp [Library.lookup, haddrs], ?_, ?_⟩
  · rw [fn_of_push hfns, if_pos rfl]
    exact hcb
  · rw [fn_of_push hfns, if_pos rfl]
    exact hbody

theorem runs_newCallback {l l' : Library} {sig : Native.Signature} {fid addr : Nat}
    (h : l.newCallback sig (.trampoline fid) = .ok (addr, l')) : l'.Runs addr fid := by
  unfold newCallback at h
  split at h
  · split at h
    · cases h
    · split at h
      · cases h
        exact runs_of_added rfl rfl rfl rfl
      · cases h
        exact runs_of_added rfl rfl rfl rfl
  · split at h
    · cases h
    · cases h
      exact runs_of_added rfl rfl rfl rfl

theorem freeCallback_cases (l : Library) (a : Nat) :
    (l.freeCallback a = l ∧ ∀ fid, ¬ l.Runs a fid) ∨
      l.freeCallback a = { l with addrs := l.addrs.filter (·.1 != a) } ∨
      ∃ f idle, f.body = .released ∧
        l.freeCallback a = { l with
          fns := l.fns.push f
          addrs := (a, l.fns.size) :: l.addrs.filter (·.1 != a)
          idle } := by
  unfold freeCallback
  cases hlook : l.addrs.lookup a with
  | none =>
      refine .inl ⟨rfl, fun fid ⟨id, hid, _⟩ => ?_⟩
      simp [Library.lookup, hlook] at hid
  | some id =>
      by_cases hc : (l.fn id).callback = true
      · simp only [hc, Bool.not_true, Bool.false_eq_true, ite_false]
        cases hs : l.shared with
        | none => exact .inr (.inl rfl)
        | some o =>
            by_cases hr : (l.fn id).body = .released
            ·
              refine .inl ⟨by simp [hr], fun fid ⟨id', hid', _, hbody⟩ => ?_⟩
              simp only [Library.lookup, hlook, Option.some.injEq] at hid'
              subst hid'
              rw [hr] at hbody
              cases hbody
            · refine .inr (.inr ⟨{ l.fn id with body := .released },
                ((l.fn id).signature.text, a) :: l.idle, rfl, ?_⟩)
              simp [hr, hc, hs, addFn]
      ·
        have hc' : (l.fn id).callback = false := by simpa using hc
        refine .inl ⟨by simp [hc'], fun fid ⟨id', hid', hcb, _⟩ => ?_⟩
        simp only [Library.lookup, hlook, Option.some.injEq] at hid'
        subst hid'
        exact hc hcb

theorem runs_of_freeCallback {l : Library} {a addr fid : Nat}
    (h : (l.freeCallback a).Runs addr fid) : l.Runs addr fid ∧ a ≠ addr := by
  obtain ⟨id, hlook, hcb, hbody⟩ := h
  rcases freeCallback_cases l a with ⟨hl, hnot⟩ | hl | ⟨f, idle, hf, hl⟩ <;>
    rw [hl] at hlook hcb hbody
  · refine ⟨⟨id, hlook, hcb, hbody⟩, ?_⟩
    rintro rfl
    exact hnot fid ⟨id, hlook, hcb, hbody⟩
  · have hne : a ≠ addr := by
      rintro rfl
      simp [Library.lookup, List.lookup_filter_self] at hlook
    simp only [Library.lookup, List.lookup_filter_ne _ (Ne.symm hne)] at hlook
    exact ⟨⟨id, hlook, hcb, hbody⟩, hne⟩
  ·
    have hfn : ∀ l' : Library, l'.fns = l.fns.push f →
        l'.fn id = if id = l.fns.size then f else l.fn id :=
      fun l' h => fn_of_push h id
    rw [hfn _ rfl] at hcb hbody
    have hid : id ≠ l.fns.size := by
      rintro rfl
      rw [if_pos rfl, hf] at hbody
      cases hbody
    rw [if_neg hid] at hcb hbody
    have hne : a ≠ addr := by
      rintro rfl
      simp [Library.lookup] at hlook
      exact hid hlook.symm
    simp only [Library.lookup, List.lookup_cons, List.lookup_filter_ne _ (Ne.symm hne)] at hlook
    have hba : (addr == a) = false := by simpa using Ne.symm hne
    rw [hba] at hlook
    exact ⟨⟨id, hlook, hcb, hbody⟩, hne⟩

theorem not_runs_freeCallback (l : Library) (a fid : Nat) : ¬ (l.freeCallback a).Runs a fid :=
  fun h => (runs_of_freeCallback h).2 rfl

end Introspection.Host.Library

namespace Introspection.Marshal

open Introspection.Loaded Introspection.Loaded.Session Introspection.Host
open Introspection.Invoke.Session (run_bind run_pure run_throw run_get)

/-- A frame of a session by index. -/
def frameAt (s : Session) (fid : Nat) : Frame := s.frames.getD fid default

/-- The host library a frame's trampoline lives in: the one behind its converter's handle. -/
def hostLibOf (s : Session) (fid : Nat) : Option Nat :=
  match (s.handles.getD (s.converters.getD (frameAt s fid).conv default).handle default).backing with
  | .host lib => some lib
  | .guest _ => none

theorem hostLibOf_eq_some {s : Session} {fid lib : Nat} :
    hostLibOf s fid = some lib ↔
      (s.handles.getD (s.converters.getD (frameAt s fid).conv default).handle default).backing =
        .host lib := by
  unfold hostLibOf
  split <;> simp_all

theorem hostLibOf_eq_none {s : Session} {fid : Nat} :
    hostLibOf s fid = none ↔
      ∃ g, (s.handles.getD (s.converters.getD (frameAt s fid).conv default).handle default).backing =
        .guest g := by
  unfold hostLibOf
  split <;> simp_all

/-- Between two sessions callbacks only ended: frames keep their converter, address and kind,
released frames stay released, a trampoline that stopped answering does not answer again, and a
frame released in between no longer answers at its address. -/
structure Ends (s s' : Session) : Prop where
  frames_size : s'.frames.size = s.frames.size
  released : ∀ fid, (frameAt s fid).released = true → (frameAt s' fid).released = true
  conv : ∀ fid, (frameAt s' fid).conv = (frameAt s fid).conv
  ptr : ∀ fid, (frameAt s' fid).ptr = (frameAt s fid).ptr
  async : ∀ fid, (frameAt s' fid).async = (frameAt s fid).async
  handles : s'.handles = s.handles
  handle : ∀ c, (s'.converters.getD c default).handle = (s.converters.getD c default).handle
  dead : ∀ lib addr fid, ¬ (s.libs.getD lib default).Runs addr fid →
    ¬ (s'.libs.getD lib default).Runs addr fid
  freed : ∀ fid lib, hostLibOf s fid = some lib → (frameAt s fid).released = false →
    (frameAt s' fid).released = true → ¬ (s'.libs.getD lib default).Runs (frameAt s fid).ptr fid

namespace Ends

theorem hostLibOf_eq {s s' : Session} (h : Ends s s') (fid : Nat) :
    hostLibOf s' fid = hostLibOf s fid := by
  unfold hostLibOf
  rw [h.handles, h.handle, h.conv]

theorem refl (s : Session) : Ends s s where
  frames_size := rfl
  released _ h := h
  conv _ := rfl
  ptr _ := rfl
  async _ := rfl
  handles := rfl
  handle _ := rfl
  dead _ _ _ h := h
  freed _ _ _ hno hyes := by rw [hno] at hyes; cases hyes

theorem trans {s₁ s₂ s₃ : Session} (h₁ : Ends s₁ s₂) (h₂ : Ends s₂ s₃) : Ends s₁ s₃ where
  frames_size := h₂.frames_size.trans h₁.frames_size
  released fid h := h₂.released fid (h₁.released fid h)
  conv fid := (h₂.conv fid).trans (h₁.conv fid)
  ptr fid := (h₂.ptr fid).trans (h₁.ptr fid)
  async fid := (h₂.async fid).trans (h₁.async fid)
  handles := h₂.handles.trans h₁.handles
  handle c := (h₂.handle c).trans (h₁.handle c)
  dead lib addr fid h := h₂.dead lib addr fid (h₁.dead lib addr fid h)
  freed fid lib hlib hno hyes := by
    cases hmid : (frameAt s₂ fid).released
    · rw [← h₁.ptr fid]
      exact h₂.freed fid lib (by rw [h₁.hostLibOf_eq]; exact hlib) hmid hyes
    · exact h₂.dead lib _ fid (h₁.freed fid lib hlib hno hmid)

end Ends

/-- A release path: callbacks only end, and the converters are left as they are. -/
def Releases (s s' : Session) : Prop := Ends s s' ∧ s'.converters = s.converters

theorem Releases.refl (s : Session) : Releases s s := ⟨Ends.refl s, rfl⟩

theorem Releases.trans {s₁ s₂ s₃ : Session} (h₁ : Releases s₁ s₂) (h₂ : Releases s₂ s₃) :
    Releases s₁ s₃ :=
  ⟨h₁.1.trans h₂.1, h₂.2.trans h₁.2⟩

/-! ## Computations that move the session along a preorder -/

/-- Every run of `m`, whatever it returns, moves the session along `R`. -/
def Moves {α : Type} (R : Session → Session → Prop) (m : SessionM α) : Prop :=
  ∀ s, R s (m.run s).2

section Moves

variable {α β : Type} {R : Session → Session → Prop}

theorem Moves.pure (hrefl : ∀ s, R s s) (a : α) : Moves R (pure a : SessionM α) :=
  fun s => hrefl s

theorem Moves.bind (htrans : ∀ a b c, R a b → R b c → R a c) {m : SessionM α}
    {f : α → SessionM β} (hm : Moves R m) (hf : ∀ a, Moves R (f a)) : Moves R (m >>= f) := by
  intro s
  rw [run_bind]
  rcases hrun : m.run s with ⟨res, s'⟩
  have h₁ : R s s' := by simpa [hrun] using hm s
  cases res with
  | ok a => exact htrans _ _ _ h₁ (hf a s')
  | error e => exact h₁

theorem Moves.forIn (hrefl : ∀ s, R s s) (htrans : ∀ a b c, R a b → R b c → R a c)
    {γ : Type} (xs : List γ) (b : β) (f : γ → β → SessionM (ForInStep β))
    (hf : ∀ x b, Moves R (f x b)) : Moves R (forIn xs b f) := by
  induction xs generalizing b with
  | nil => exact Moves.pure hrefl b
  | cons x xs ih =>
      rw [List.forIn_cons]
      refine Moves.bind htrans (hf x b) fun st => ?_
      cases st with
      | done b => exact Moves.pure hrefl b
      | yield b => exact ih b

theorem Moves.of_run (hrefl : ∀ s, R s s) {m : SessionM α} (h : ∀ s, (m.run s).2 = s) :
    Moves R m := fun s => by rw [h s]; exact hrefl s

end Moves

/-! ## Reading and changing the session -/

theorem run_frame (fid : Nat) (s : Session) : (frame fid).run s = (.ok (frameAt s fid), s) := rfl

theorem run_converter (c : Nat) (s : Session) :
    (converter c).run s = (.ok (s.converters.getD c default), s) := rfl

theorem run_scope (sid : Nat) (s : Session) :
    (scope sid).run s = (.ok (s.scopes.getD sid default), s) := rfl

theorem run_modifyScope (sid : Nat) (g : Scope → Scope) (s : Session) :
    (modifyScope sid g).run s = (.ok (), { s with scopes := s.scopes.modify sid g }) := rfl

theorem run_modifyFrame (fid : Nat) (g : Frame → Frame) (s : Session) :
    (modifyFrame fid g).run s = (.ok (), { s with frames := s.frames.modify fid g }) := rfl

theorem run_modifyLibrary (lib : Nat) (g : Library → Library) (s : Session) :
    (modifyLibrary lib g).run s = (.ok (), { s with libs := s.libs.modify lib g }) := rfl

theorem run_lift {α : Type} (r : Except Failure α) (s : Session) : (lift r).run s = (r, s) := by
  cases r <;> rfl

theorem run_library (lib : Nat) (s : Session) :
    (library lib).run s = (.ok (s.libs.getD lib default), s) := rfl

theorem run_modifyConverter (conv : Nat) (g : Converter → Converter) (s : Session) :
    (modifyConverter conv g).run s =
      (.ok (), { s with converters := s.converters.modify conv g }) := rfl

theorem run_hostOf (h : Nat) (s : Session) :
    (hostOf h).run s = match (s.handles.getD h default).backing with
      | .host lib => (.ok lib, s)
      | .guest _ => (.error (.unsupported .runtime
          ("host functions of library " ++ (s.handles.getD h default).name)), s) := by
  unfold hostOf
  rw [run_bind, show (handle h).run s = (.ok (s.handles.getD h default), s) from rfl]
  dsimp only
  cases (s.handles.getD h default).backing <;> rfl

theorem run_free (h a : Nat) (s : Session) :
    (free h a).run s = match (s.handles.getD h default).backing with
      | .host lib =>
        (.ok (), { s with libs := s.libs.modify lib fun l => { l with heap := l.heap.release a } })
      | .guest g => (.ok (), { s with guests := s.guests.modify g (·.free a) }) := by
  unfold free
  rw [run_bind, show (handle h).run s = (.ok (s.handles.getD h default), s) from rfl]
  dsimp only
  cases (s.handles.getD h default).backing <;> rfl

theorem getD_modify {γ : Type} (xs : Array γ) (i j : Nat) (g : γ → γ) (d : γ) :
    (xs.modify i g).getD j d = if i = j then (xs[j]?.map g).getD d else xs.getD j d := by
  simp only [Array.getD_eq_getD_getElem?, Array.getElem?_modify]
  split <;> rfl

theorem frameAt_modify_keeps (s : Session) (fid : Nat) (g : Frame → Frame)
    (hg : ∀ f, (g f).conv = f.conv ∧ (g f).ptr = f.ptr ∧ (g f).async = f.async) (fid' : Nat) :
    let f' := frameAt { s with frames := s.frames.modify fid g } fid'
    f'.conv = (frameAt s fid').conv ∧ f'.ptr = (frameAt s fid').ptr ∧
      f'.async = (frameAt s fid').async := by
  simp only [frameAt, getD_modify]
  split
  · cases h : s.frames[fid']? with
    | none => simp [Array.getD_eq_getD_getElem?, h]
    | some f => simp [Array.getD_eq_getD_getElem?, h, hg f]
  · exact ⟨rfl, rfl, rfl⟩

theorem runs_heap (l : Library) (heap : Host.Heap) (addr fid : Nat) :
    ({ l with heap } : Library).Runs addr fid ↔ l.Runs addr fid := Iff.rfl

theorem runs_default (addr fid : Nat) : ¬ (default : Library).Runs addr fid := by
  rintro ⟨_, h, _⟩
  have hnil : (default : Library).addrs = [] := rfl
  simp [Library.lookup, hnil] at h

/-! ## Making a callback -/

theorem run_addFrame (f : Frame) (s : Session) :
    (addFrame f).run s = (.ok s.frames.size, { s with frames := s.frames.push f }) := rfl

theorem installFrame_runs (conv : Nat) (f : Frame) (s s' : Session) (fid ptr : Nat)
    (h : (installFrame conv f).run s = (.ok (fid, ptr), s')) (hconv : f.conv = conv) :
    fid = s.frames.size ∧ s'.frames.size = s.frames.size + 1 ∧ frameAt s' fid = { f with ptr } ∧
      (∃ lib, hostLibOf s' fid = some lib ∧
        (lib < s.libs.size → (s'.libs.getD lib default).Runs ptr fid)) ∧
      s'.scopes = s.scopes ∧ s'.converters = s.converters := by
  unfold installFrame at h
  simp only [run_bind, run_addFrame, run_converter, run_hostOf] at h
  cases hb : (s.handles.getD (s.converters.getD conv default).handle default).backing with
  | guest g => simp only [hb] at h; cases h
  | host lib =>
      simp only [hb, run_library] at h
      cases hn : (s.libs.getD lib default).newCallback f.sig (.trampoline s.frames.size) with
      | error e => simp only [hn, run_bind, run_modifyFrame] at h; cases h
      | ok p =>
          obtain ⟨addr, l⟩ := p
          simp only [hn, run_bind, run_modifyLibrary, run_modifyFrame, run_pure] at h
          cases h
          have hframe : frameAt { s with
              libs := s.libs.modify lib fun _ => l
              frames := (s.frames.push f).modify s.frames.size fun f => { f with ptr } }
              s.frames.size = { f with ptr } := by
            rw [frameAt, getD_modify, if_pos rfl, Array.getElem?_push_size]
            rfl
          refine ⟨rfl, by simp, hframe, ⟨lib, ?_, fun hlib => ?_⟩, rfl, rfl⟩
          · rw [hostLibOf_eq_some, hframe, hconv]
            exact hb
          ·
            rw [getD_modify, if_pos rfl, Array.getElem?_eq_getElem hlib]
            exact Library.runs_newCallback hn

/-! ## Every release path is an ending -/

/-- A session with one frame marked released. -/
def markReleased (s : Session) (fid : Nat) : Session :=
  { s with frames := s.frames.modify fid fun f => { f with released := true, last := none } }

theorem frameAt_of_size_le {s : Session} {fid : Nat} (h : s.frames.size ≤ fid) :
    frameAt s fid = default := by
  simp [frameAt, Array.getD_eq_getD_getElem?, Array.getElem?_eq_none h]

theorem frameAt_markReleased_ne {s : Session} {fid fid' : Nat} (h : fid ≠ fid') :
    frameAt (markReleased s fid) fid' = frameAt s fid' := by
  simp only [frameAt, markReleased, getD_modify, if_neg h]

theorem markReleased_released (s : Session) {fid : Nat} (h : fid < s.frames.size) :
    (frameAt (markReleased s fid) fid).released = true := by
  simp only [frameAt, markReleased, getD_modify, Array.getElem?_eq_getElem h, Option.map_some,
    Option.getD_some, ite_true]

theorem released_markReleased {s : Session} (fid : Nat) {fid' : Nat}
    (h : (frameAt s fid').released = true) :
    (frameAt (markReleased s fid) fid').released = true := by
  by_cases hf : fid = fid'
  · subst hf
    rcases Nat.lt_or_ge fid s.frames.size with hlt | hge
    · exact markReleased_released s hlt
    ·
      rw [frameAt_of_size_le hge] at h
      cases h
  · rwa [frameAt_markReleased_ne hf]

theorem releases_markReleased {s s' : Session} (fid : Nat)
    (hf : s'.frames = (markReleased s fid).frames) (hh : s'.handles = s.handles)
    (hc : s'.converters = s.converters)
    (hdead : ∀ lib addr fid', ¬ (s.libs.getD lib default).Runs addr fid' →
      ¬ (s'.libs.getD lib default).Runs addr fid')
    (hfreed : ∀ lib, hostLibOf s fid = some lib →
      ¬ (s'.libs.getD lib default).Runs (frameAt s fid).ptr fid) :
    Releases s s' := by
  have hframe : ∀ fid', frameAt s' fid' = frameAt (markReleased s fid) fid' := fun fid' => by
    simp only [frameAt, hf]
  have hkeep := frameAt_modify_keeps s fid (fun f => { f with released := true, last := none })
    fun _ => ⟨rfl, rfl, rfl⟩
  refine ⟨⟨by simp [hf, markReleased], fun fid' h => ?_, fun fid' => ?_, fun fid' => ?_,
    fun fid' => ?_, hh, fun c => by rw [hc], hdead, fun fid' lib hl hno hyes => ?_⟩, hc⟩
  · rw [hframe]; exact released_markReleased fid h
  · rw [hframe]; exact (hkeep fid').1
  · rw [hframe]; exact (hkeep fid').2.1
  · rw [hframe]; exact (hkeep fid').2.2
  ·
    by_cases hfid : fid = fid'
    · subst hfid
      exact hfreed lib hl
    · rw [hframe, frameAt_markReleased_ne hfid, hno] at hyes
      cases hyes

theorem releases_mark (s : Session) (fid : Nat) (hlib : hostLibOf s fid = none) :
    Releases s (markReleased s fid) :=
  releases_markReleased fid rfl rfl rfl (fun _ _ _ h => h) fun lib hl => by
    rw [hlib] at hl
    cases hl

theorem not_runs_modify {libs : Array Library} {lib : Nat} {g : Library → Library}
    (hg : ∀ l addr fid, (g l).Runs addr fid → l.Runs addr fid) (lib' addr fid : Nat)
    (h : ¬ (libs.getD lib' default).Runs addr fid) :
    ¬ ((libs.modify lib g).getD lib' default).Runs addr fid := by
  rw [getD_modify]
  split
  · cases hl : libs[lib']? with
    | none => exact runs_default addr fid
    | some l =>
        intro hr
        exact h (by simpa [Array.getD_eq_getD_getElem?, hl] using hg l addr fid hr)
  · exact h

theorem not_runs_freed (libs : Array Library) (lib a fid : Nat) :
    ¬ ((libs.modify lib fun l => l.freeCallback a).getD lib default).Runs a fid := by
  rw [getD_modify, if_pos rfl]
  cases libs[lib]? with
  | none => exact runs_default _ _
  | some l => exact Library.not_runs_freeCallback l _ _

theorem releases_mark_free (s : Session) (fid lib : Nat) (hlib : hostLibOf s fid = some lib) :
    Releases s { markReleased s fid with
      libs := s.libs.modify lib fun l => l.freeCallback (frameAt s fid).ptr } :=
  releases_markReleased fid rfl rfl rfl
    (not_runs_modify fun _ _ _ hr => (Library.runs_of_freeCallback hr).1) fun lib' hl => by
      rw [hlib] at hl
      cases hl
      exact not_runs_freed _ _ _ fid

theorem ends_of_frames {s s' : Session} (hf : s'.frames = s.frames) (hh : s'.handles = s.handles)
    (hc : ∀ c, (s'.converters.getD c default).handle = (s.converters.getD c default).handle)
    (hl : ∀ lib addr fid, ¬ (s.libs.getD lib default).Runs addr fid →
      ¬ (s'.libs.getD lib default).Runs addr fid) : Ends s s' := by
  have hframe : ∀ fid, frameAt s' fid = frameAt s fid := fun fid => by simp only [frameAt, hf]
  refine ⟨by rw [hf], fun fid h => by rwa [hframe], fun fid => by rw [hframe],
    fun fid => by rw [hframe], fun fid => by rw [hframe], hh, hc, hl,
    fun fid lib _ hno hyes => ?_⟩
  rw [hframe, hno] at hyes
  cases hyes

theorem releases_of_libs {s s' : Session} (hf : s'.frames = s.frames) (hh : s'.handles = s.handles)
    (hc : s'.converters = s.converters)
    (hl : ∀ lib addr fid, ¬ (s.libs.getD lib default).Runs addr fid →
      ¬ (s'.libs.getD lib default).Runs addr fid) : Releases s s' :=
  ⟨ends_of_frames hf hh (fun c => by rw [hc]) hl, hc⟩

theorem releases_modifyScope (sid : Nat) (g : Scope → Scope) : Moves Releases (modifyScope sid g) :=
  fun _ => releases_of_libs rfl rfl rfl fun _ _ _ h => h

theorem releases_free (h a : Nat) : Moves Releases (free h a) := by
  intro s
  rw [run_free]
  cases hb : (s.handles.getD h default).backing with
  | guest g => exact releases_of_libs rfl rfl rfl fun _ _ _ h => h
  | host lib =>
      exact releases_of_libs rfl rfl rfl
        (not_runs_modify fun l addr fid => (runs_heap l _ addr fid).1)

/-! ## Releases that return -/

/-- Every handle of the session is backed by a host library, so no release fails. -/
def HostBacked (s : Session) : Prop :=
  ∀ h, ∃ lib, (s.handles.getD h default).backing = .host lib

theorem HostBacked.of_releases {s s' : Session} (hs : HostBacked s) (h : Releases s s') :
    HostBacked s' := by
  intro hd
  rw [h.1.handles]
  exact hs hd

/-- Every run of `m` from a session satisfying `P` returns normally. -/
def Completes {α : Type} (P : Session → Prop) (m : SessionM α) : Prop :=
  ∀ s, P s → ∃ a, (m.run s).1 = .ok a

section Completes

variable {α β : Type} {P : Session → Prop} {R : Session → Session → Prop}

theorem Completes.pure (a : α) : Completes P (pure a : SessionM α) := fun _ _ => ⟨a, rfl⟩

theorem Completes.of_total {m : SessionM α} (h : ∀ s, ∃ a, (m.run s).1 = .ok a) : Completes P m :=
  fun s _ => h s

theorem Completes.bind (hP : ∀ s s', P s → R s s' → P s') {m : SessionM α} {f : α → SessionM β}
    (hm : Completes P m) (hmR : Moves R m) (hf : ∀ a, Completes P (f a)) :
    Completes P (m >>= f) := by
  intro s hs
  rw [run_bind]
  obtain ⟨a, ha⟩ := hm s hs
  rcases hrun : m.run s with ⟨res, s'⟩
  have hR : R s s' := by simpa [hrun] using hmR s
  rw [hrun] at ha
  cases ha
  exact hf a s' (hP s s' hs hR)

theorem Completes.forIn (hP : ∀ s s', P s → R s s' → P s') {γ : Type} (xs : List γ) (b : β)
    (f : γ → β → SessionM (ForInStep β)) (hf : ∀ x b, Completes P (f x b))
    (hfR : ∀ x b, Moves R (f x b)) : Completes P (forIn xs b f) := by
  induction xs generalizing b with
  | nil => exact Completes.pure b
  | cons x xs ih =>
      rw [List.forIn_cons]
      refine Completes.bind hP (hf x b) (hfR x b) fun st => ?_
      cases st with
      | done b => exact Completes.pure b
      | yield b => exact ih b

end Completes

/-- A release step: every run moves the session along a release path, and a run from a session
of host libraries returns normally. -/
structure Releasing {α : Type} (m : SessionM α) : Prop where
  moves : Moves Releases m
  completes : Completes HostBacked m

namespace Releasing

variable {α β : Type}

theorem pure (a : α) : Releasing (Pure.pure a : SessionM α) :=
  ⟨Moves.pure Releases.refl a, Completes.pure a⟩

theorem read {m : SessionM α} (h : ∀ s, ∃ a, m.run s = (.ok a, s)) : Releasing m := by
  refine ⟨Moves.of_run Releases.refl fun s => ?_, Completes.of_total fun s => ?_⟩
  · obtain ⟨a, ha⟩ := h s
    rw [ha]
  · obtain ⟨a, ha⟩ := h s
    exact ⟨a, by rw [ha]⟩

theorem bind {m : SessionM α} {f : α → SessionM β} (hm : Releasing m) (hf : ∀ a, Releasing (f a)) :
    Releasing (m >>= f) :=
  ⟨Moves.bind (fun _ _ _ h₁ h₂ => h₁.trans h₂) hm.moves fun a => (hf a).moves,
    Completes.bind (fun _ _ hs h => hs.of_releases h) hm.completes hm.moves fun a =>
      (hf a).completes⟩

theorem forIn {γ : Type} (xs : List γ) (b : β) (f : γ → β → SessionM (ForInStep β))
    (hf : ∀ x b, Releasing (f x b)) : Releasing (forIn xs b f) :=
  ⟨Moves.forIn Releases.refl (fun _ _ _ h₁ h₂ => h₁.trans h₂) xs b f fun x b => (hf x b).moves,
    Completes.forIn (fun _ _ hs h => hs.of_releases h) xs b f (fun x b => (hf x b).completes)
      fun x b => (hf x b).moves⟩

end Releasing

theorem releasing_modifyScope (sid : Nat) (g : Scope → Scope) : Releasing (modifyScope sid g) :=
  ⟨releases_modifyScope sid g, Completes.of_total fun _ => ⟨(), rfl⟩⟩

theorem releasing_free (h a : Nat) : Releasing (free h a) := by
  refine ⟨releases_free h a, Completes.of_total fun s => ?_⟩
  rw [run_free]
  cases (s.handles.getD h default).backing <;> exact ⟨(), rfl⟩

theorem releasing_frees (h : Nat) (xs : List Nat) :
    Releasing (forIn xs PUnit.unit fun a _ => do
      free h a
      pure (ForInStep.yield PUnit.unit)) :=
  Releasing.forIn _ _ _ fun a _ => Releasing.bind (releasing_free h a) fun _ => Releasing.pure _

/-! ## Releasing frames and scopes -/

theorem run_release_released (fuel fid : Nat) (s : Session)
    (hrel : (frameAt s fid).released = true) :
    (releaseFrameUpTo fuel fid).run s = (.ok (), s) := by
  cases fuel with
  | zero => rfl
  | succ fuel =>
      rw [releaseFrameUpTo, run_bind, run_frame]
      simp only [hrel, if_true]
      rfl

theorem run_release_guest (fuel fid : Nat) (s : Session) (hrel : (frameAt s fid).released = false)
    (hlib : hostLibOf s fid = none) :
    ((releaseFrameUpTo (fuel + 1) fid).run s).2 = markReleased s fid := by
  obtain ⟨g, hb⟩ := hostLibOf_eq_none.1 hlib
  rw [releaseFrameUpTo, run_bind, run_frame]
  simp only [hrel, Bool.false_eq_true, if_false, run_bind, run_modifyFrame, run_converter,
    run_hostOf, hb]
  rfl

theorem run_release_host (fuel fid lib : Nat) (s : Session)
    (hrel : (frameAt s fid).released = false) (hlib : hostLibOf s fid = some lib) :
    (releaseFrameUpTo (fuel + 1) fid).run s =
      ((frameAt s fid).last.elim (pure ()) (releaseFrameUpTo.releaseScopeUpTo fuel)).run
        { markReleased s fid with
          libs := s.libs.modify lib fun l => l.freeCallback (frameAt s fid).ptr } := by
  rw [releaseFrameUpTo, run_bind, run_frame]
  simp only [hrel, Bool.false_eq_true, if_false, run_bind, run_modifyFrame, run_converter,
    run_hostOf, hostLibOf_eq_some.1 hlib, run_modifyLibrary]
  cases (frameAt s fid).last <;> rfl

theorem releasing_frame (fuel fid : Nat)
    (hscope : ∀ sid, Releasing (releaseFrameUpTo.releaseScopeUpTo fuel sid)) :
    Releasing (releaseFrameUpTo (fuel + 1) fid) := by
  refine ⟨fun s => ?_, fun s hs => ?_⟩
  ·
    cases hrel : (frameAt s fid).released with
    | true => rw [run_release_released _ _ _ hrel]; exact Releases.refl s
    | false =>
        cases hlib : hostLibOf s fid with
        | none => rw [run_release_guest _ _ _ hrel hlib]; exact releases_mark s fid hlib
        | some lib =>
            rw [run_release_host _ _ _ _ hrel hlib]
            refine Releases.trans (releases_mark_free s fid lib hlib) ?_
            cases (frameAt s fid).last with
            | none => exact Releases.refl _
            | some sid => exact (hscope sid).moves _
  · cases hrel : (frameAt s fid).released with
    | true => exact ⟨(), by rw [run_release_released _ _ _ hrel]⟩
    | false =>
        cases hlib : hostLibOf s fid with
        | none =>
            obtain ⟨g, hg⟩ := hostLibOf_eq_none.1 hlib
            obtain ⟨lib, hl⟩ := hs (s.converters.getD (frameAt s fid).conv default).handle
            rw [hl] at hg
            cases hg
        | some lib =>
            rw [run_release_host _ _ _ _ hrel hlib]
            have hs' := hs.of_releases (releases_mark_free s fid lib hlib)
            cases (frameAt s fid).last with
            | none => exact ⟨(), rfl⟩
            | some sid => exact (hscope sid).completes _ hs'

/-- One step of a scope's deferred work. -/
def runDeferred (fuel : Nat) : Deferred → Unit → SessionM (ForInStep Unit)
  | .releaseFrame fid, _ => do
    releaseFrameUpTo fuel fid
    pure (.yield PUnit.unit)

theorem releaseScopeUpTo_succ (fuel sid : Nat) :
    releaseFrameUpTo.releaseScopeUpTo (fuel + 1) sid = (do
      let sc ← scope sid
      modifyScope sid fun s => { s with frees := [], defers := [] }
      forIn sc.defers.reverse PUnit.unit (runDeferred fuel)
      forIn sc.frees.reverse PUnit.unit fun a _ => do
        free sc.handle a
        pure (.yield PUnit.unit)
      pure ()) := by
  rw [releaseFrameUpTo.releaseScopeUpTo]
  rfl

theorem releasing_runDeferred (fuel : Nat) (hf : ∀ fid, Releasing (releaseFrameUpTo fuel fid))
    (d : Deferred) (b : Unit) : Releasing (runDeferred fuel d b) := by
  cases d with
  | releaseFrame fid => exact Releasing.bind (hf fid) fun _ => Releasing.pure _

theorem releasing_upTo : ∀ fuel,
    (∀ fid, Releasing (releaseFrameUpTo fuel fid)) ∧
      ∀ sid, Releasing (releaseFrameUpTo.releaseScopeUpTo fuel sid)
  | 0 => ⟨fun _ => Releasing.pure (), fun _ => Releasing.pure ()⟩
  | fuel + 1 => by
      obtain ⟨ihf, ihs⟩ := releasing_upTo fuel
      refine ⟨fun fid => releasing_frame fuel fid ihs, fun sid => ?_⟩
      rw [releaseScopeUpTo_succ]
      refine Releasing.bind (Releasing.read fun _ => ⟨_, rfl⟩) fun sc => ?_
      refine Releasing.bind (releasing_modifyScope _ _) fun _ => ?_
      exact Releasing.bind (Releasing.forIn _ _ _ (releasing_runDeferred fuel ihf)) fun _ =>
        Releasing.bind (releasing_frees _ _) fun _ => Releasing.pure _

theorem release_ends_frame (fuel fid : Nat) (s : Session) (hfid : fid < s.frames.size) :
    let s' := ((releaseFrameUpTo (fuel + 1) fid).run s).2
    (frameAt s' fid).released = true ∧
      ((frameAt s fid).released = false → ∀ lib, hostLibOf s fid = some lib →
        ¬ (s'.libs.getD lib default).Runs (frameAt s fid).ptr fid) := by
  intro s'
  have hends : Ends s s' := (((releasing_upTo (fuel + 1)).1 fid).moves s).1
  have hreleased : (frameAt s' fid).released = true := by
    cases hrel : (frameAt s fid).released with
    | true => exact hends.released fid hrel
    | false =>
        cases hlib : hostLibOf s fid with
        | none =>
            simp only [s', run_release_guest _ _ _ hrel hlib]
            exact markReleased_released s hfid
        | some lib =>
            have hrest : Releases { markReleased s fid with
                libs := s.libs.modify lib fun l => l.freeCallback (frameAt s fid).ptr } s' := by
              simp only [s', run_release_host _ _ _ _ hrel hlib]
              cases (frameAt s fid).last with
              | none => exact Releases.refl _
              | some sid => exact ((releasing_upTo fuel).2 sid).moves _
            exact hrest.1.released fid (markReleased_released s hfid)
  exact ⟨hreleased, fun hno lib hlib => hends.freed fid lib hlib hno hreleased⟩

theorem run_releaseFrame (fid : Nat) (s : Session) :
    (releaseFrame fid).run s =
      (releaseFrameUpTo (2 * (s.frames.size + s.scopes.size) + 1 + 1) fid).run s := by
  simp only [releaseFrame, releaseFuel, run_bind, run_get, run_pure]

theorem run_releaseScope (sid : Nat) (s : Session) :
    (releaseScope sid).run s = (releaseFrameUpTo.releaseScopeUpTo
      (2 * (s.frames.size + s.scopes.size) + 1 + 1) sid).run s := by
  simp only [releaseScope, releaseFuel, run_bind, run_get, run_pure]

theorem releasing_releaseFrame (fid : Nat) : Releasing (releaseFrame fid) :=
  Releasing.bind (Releasing.read fun _ => ⟨_, rfl⟩) fun n => (releasing_upTo n).1 fid

theorem releasing_releaseScope (sid : Nat) : Releasing (releaseScope sid) :=
  Releasing.bind (Releasing.read fun _ => ⟨_, rfl⟩) fun n => (releasing_upTo n).2 sid

theorem releaseFrame_ends_frame (fid : Nat) (s : Session) (hfid : fid < s.frames.size) :
    let s' := ((releaseFrame fid).run s).2
    (frameAt s' fid).released = true ∧
      ((frameAt s fid).released = false → ∀ lib, hostLibOf s fid = some lib →
        ¬ (s'.libs.getD lib default).Runs (frameAt s fid).ptr fid) := by
  rw [run_releaseFrame]
  exact release_ends_frame _ fid s hfid

/-! ## Call scopes -/

theorem forIn_establishes {γ : Type} (Q : γ → Session → Prop) (xs : List γ)
    (f : γ → Unit → SessionM (ForInStep Unit)) (hf : ∀ x b, Releasing (f x b))
    (hstep : ∀ x b s, HostBacked s →
      ((f x b).run s).1 = .ok (.yield PUnit.unit) ∧ Q x ((f x b).run s).2)
    (hkeep : ∀ x s s', Q x s → Releases s s' → Q x s') :
    ∀ s, HostBacked s → ∀ x ∈ xs, Q x ((forIn xs PUnit.unit f).run s).2 := by
  induction xs with
  | nil => intro _ _ x hx; cases hx
  | cons x xs ih =>
      intro s hs y hy
      obtain ⟨hok, hq⟩ := hstep x PUnit.unit s hs
      have hmoves := (hf x PUnit.unit).moves s
      rw [List.forIn_cons, run_bind]
      rcases hrun : (f x PUnit.unit).run s with ⟨res, s₁⟩
      rw [hrun] at hok hq hmoves
      cases hok
      rcases List.mem_cons.1 hy with rfl | hy
      · exact hkeep y s₁ _ hq ((Releasing.forIn xs _ f hf).moves s₁)
      · exact ih s₁ (hs.of_releases hmoves) y hy

theorem releaseScopeUpTo_after_deferred (fuel sid : Nat)
    (hf : ∀ fid, Releasing (releaseFrameUpTo fuel fid)) (s : Session) :
    let sc := s.scopes.getD sid default
    let s₁ : Session :=
      { s with scopes := s.scopes.modify sid fun sc => { sc with frees := [], defers := [] } }
    let s₂ := ((forIn sc.defers.reverse PUnit.unit (runDeferred fuel)).run s₁).2
    Releases s s₁ ∧ Releases s₁ s₂ ∧
      Releases s₂ ((releaseFrameUpTo.releaseScopeUpTo (fuel + 1) sid).run s).2 := by
  intro sc s₁ s₂
  refine ⟨releases_modifyScope sid _ s,
    (Releasing.forIn _ _ _ (releasing_runDeferred fuel hf)).moves s₁, ?_⟩
  simp only [s₂]
  rw [releaseScopeUpTo_succ]
  simp only [run_bind, run_scope, run_modifyScope]
  rcases hrun : (forIn sc.defers.reverse PUnit.unit (runDeferred fuel)).run s₁ with ⟨res, s₃⟩
  cases res with
  | error => exact Releases.refl s₃
  | ok =>
      have hfrees := (Releasing.bind (releasing_frees sc.handle sc.frees.reverse) fun _ =>
        Releasing.pure ()).moves s₃
      rw [run_bind] at hfrees
      exact hfrees

/-- A deferred release whose frame is released. -/
def DeferredDone : Deferred → Session → Prop
  | .releaseFrame fid, s => fid < s.frames.size → (frameAt s fid).released = true

theorem DeferredDone.of_releases {d : Deferred} {s s' : Session} (hd : DeferredDone d s)
    (h : Releases s s') : DeferredDone d s' := by
  cases d with
  | releaseFrame fid =>
      intro hlt
      exact h.1.released fid (hd (h.1.frames_size ▸ hlt))

theorem runDeferred_done (fuel : Nat) (d : Deferred) (b : Unit) (s : Session) (hs : HostBacked s) :
    ((runDeferred (fuel + 1) d b).run s).1 = .ok (.yield ()) ∧
      DeferredDone d ((runDeferred (fuel + 1) d b).run s).2 := by
  cases d with
  | releaseFrame fid =>
      obtain ⟨_, ha⟩ := ((releasing_upTo (fuel + 1)).1 fid).completes s hs
      have hmoves := ((releasing_upTo (fuel + 1)).1 fid).moves s
      have hends := release_ends_frame fuel fid s
      simp only [runDeferred, run_bind]
      rcases hr : (releaseFrameUpTo (fuel + 1) fid).run s with ⟨res, s'⟩
      rw [hr] at ha hmoves hends
      cases ha
      exact ⟨rfl, fun hlt => (hends (hmoves.1.frames_size ▸ hlt)).1⟩

theorem releaseScope_releases_deferred (sid : Nat) (s : Session) (hs : HostBacked s) :
    ((releaseScope sid).run s).1 = .ok () ∧
      ∀ fid, .releaseFrame fid ∈ (s.scopes.getD sid default).defers → fid < s.frames.size →
        (frameAt ((releaseScope sid).run s).2 fid).released = true := by
  rw [run_releaseScope]
  generalize 2 * (s.frames.size + s.scopes.size) = k
  refine ⟨?_, fun fid hmem hfid => ?_⟩
  · obtain ⟨_, ha⟩ := ((releasing_upTo (k + 1 + 1)).2 sid).completes s hs
    exact ha
  have hframes := (releasing_upTo (k + 1)).1
  obtain ⟨hcleared, hmoved, hafter⟩ := releaseScopeUpTo_after_deferred (k + 1) sid hframes s
  have hdeferred := releasing_runDeferred (k + 1) hframes
  have hloop := forIn_establishes DeferredDone _ _ hdeferred (runDeferred_done k)
    (fun _ _ _ hd h => hd.of_releases h) _ (hs.of_releases hcleared) _ (List.mem_reverse.2 hmem)
  have hsize := hafter.1.frames_size.trans (hmoved.1.frames_size.trans hcleared.1.frames_size)
  exact (hloop.of_releases hafter) (hsize ▸ hfid)

/-! ## Async callbacks -/

/-- A callback's run never fails: what escapes the frame's run is recovered as zero, with the
session the run left. -/
theorem trampolineBody_ok (hooks : Hooks) (fid : Nat) (raw : List Nat) (s : Session) :
    ∃ out, (trampolineBody hooks fid raw).run s = (.ok out, ((trampolineRun hooks fid raw).run s).2) := by
  rcases h : (trampolineRun hooks fid raw).run s with ⟨r, s₁⟩
  have hat : (attempt (trampolineRun hooks fid raw)).run s = (.ok r, s₁) := by
    rw [show (attempt (trampolineRun hooks fid raw)).run s =
      (.ok ((trampolineRun hooks fid raw).run s).1, ((trampolineRun hooks fid raw).run s).2) from rfl, h]
  unfold trampolineBody
  rw [run_bind, hat]
  cases r <;> exact ⟨_, rfl⟩

/-- An async callback is released by every call of it, whatever the call met: its run never
fails, and a release marks the frame released even where freeing the trampoline fails. -/
theorem async_released_after_every_call (hooks : Hooks) (fid : Nat) (raw : List Nat) (s : Session)
    (hasync : (frameAt ((trampolineBody hooks fid raw).run s).2 fid).async = true)
    (hfid : fid < ((trampolineBody hooks fid raw).run s).2.frames.size) :
    (frameAt ((trampoline hooks fid raw).run s).2 fid).released = true := by
  obtain ⟨out, hbody⟩ := trampolineBody_ok hooks fid raw s
  rw [hbody] at hasync hfid
  unfold trampoline endCall
  rw [run_bind, hbody]
  simp only [run_bind, run_frame, hasync, if_true]
  have hends := (releaseFrame_ends_frame fid _ hfid).1
  rcases hrel : (releaseFrame fid).run ((trampolineRun hooks fid raw).run s).2 with ⟨r, s₂⟩
  rw [hrel] at hends
  cases r <;> exact hends

/-! ## Notified callbacks -/

/-- A session whose converter forgets the notified callback at an address. -/
def dropNotified (s : Session) (conv ptr : Nat) : Session :=
  { s with converters := s.converters.modify conv fun c =>
      { c with notified := c.notified.filter (·.1 != ptr) } }

theorem notified_dropNotified (s : Session) (conv ptr : Nat) :
    ((dropNotified s conv ptr).converters.getD conv default).notified =
      (s.converters.getD conv default).notified.filter (·.1 != ptr) := by
  rw [dropNotified, getD_modify, if_pos rfl, Array.getD_eq_getD_getElem?]
  cases s.converters[conv]? <;> rfl

theorem ends_dropNotified (s : Session) (conv ptr : Nat) : Ends s (dropNotified s conv ptr) := by
  refine ends_of_frames rfl rfl (fun c => ?_) fun _ _ _ h => h
  simp only [dropNotified, getD_modify]
  split
  · rename_i hc
    subst hc
    rw [Array.getD_eq_getD_getElem?]
    cases s.converters[conv]? <;> rfl
  · rfl

theorem run_releaseCallback_none {conv ptr : Nat} {s : Session}
    (h : (s.converters.getD conv default).notified.lookup ptr = none) :
    (releaseCallback conv ptr).run s = (.ok (), s) := by
  simp only [releaseCallback, run_bind, run_converter, h]
  rfl

theorem run_releaseCallback_some {conv ptr fid : Nat} {s : Session}
    (h : (s.converters.getD conv default).notified.lookup ptr = some fid) :
    (releaseCallback conv ptr).run s = (releaseFrame fid).run (dropNotified s conv ptr) := by
  simp only [releaseCallback, run_bind, run_converter, h]
  rfl

theorem releaseCallback_ends_once (conv ptr : Nat) (s : Session) :
    let s' := ((releaseCallback conv ptr).run s).2
    let pending := (s.converters.getD conv default).notified
    Ends s s' ∧ (s'.converters.getD conv default).notified = pending.filter (·.1 != ptr) ∧
      (∀ fid, pending.lookup ptr = some fid → fid < s.frames.size →
        (frameAt s' fid).released = true) ∧
      (releaseCallback conv ptr).run s' = (.ok (), s') := by
  intro s' pending
  cases hl : pending.lookup ptr with
  | none =>
      have hrun := run_releaseCallback_none hl
      have hs' : s' = s := by simp only [s', hrun]
      rw [hs']
      exact ⟨Ends.refl s, (List.filter_of_lookup_eq_none hl).symm, (fun _ h => by cases h), hrun⟩
  | some fid =>
      have hrun := run_releaseCallback_some hl
      have hrel : Releases (dropNotified s conv ptr) s' := by
        simp only [s', hrun]
        exact (releasing_releaseFrame fid).moves _
      have hnotified :
          (s'.converters.getD conv default).notified = pending.filter (·.1 != ptr) := by
        rw [hrel.2]
        exact notified_dropNotified s conv ptr
      refine ⟨(ends_dropNotified s conv ptr).trans hrel.1, hnotified, fun fid' hfid hlt => ?_,
        run_releaseCallback_none (by rw [hnotified]; exact List.lookup_filter_self _ _)⟩
      cases hfid
      simp only [s', hrun]
      exact (releaseFrame_ends_frame fid (dropNotified s conv ptr) hlt).1

/-! ## The shared destroy notifier -/

theorem run_destroyNotify_made {conv : Nat} {s : Session} {r : Except Failure Nat}
    (h : (s.converters.getD conv default).destroy = some r) :
    (destroyNotify conv).run s = (r, s) := by
  simp only [destroyNotify, run_bind, run_converter, h, run_lift]

theorem destroy_modify_self (s : Session) {conv : Nat} (r : Except Failure Nat)
    (hconv : conv < s.converters.size) :
    ((s.converters.modify conv fun c => { c with destroy := some r }).getD conv default).destroy =
      some r := by
  rw [getD_modify, if_pos rfl, Array.getElem?_eq_getElem hconv]
  rfl

theorem destroyNotify_made_once (conv : Nat) (s : Session) (hconv : conv < s.converters.size) :
    (destroyNotify conv).run ((destroyNotify conv).run s).2 = (destroyNotify conv).run s := by
  cases hd : (s.converters.getD conv default).destroy with
  | some r => rw [run_destroyNotify_made hd, run_destroyNotify_made hd]
  | none =>
      cases hb : (s.handles.getD (s.converters.getD conv default).handle default).backing with
      | guest g =>
          have hrun : ((destroyNotify conv).run s).2 = s := by
            simp only [destroyNotify, run_bind, run_converter, hd, run_hostOf, hb]
          rw [hrun]
      | host lib =>
          have hmade : ∃ r libs, (destroyNotify conv).run s = (r, { s with
              libs := libs
              converters := s.converters.modify conv fun c => { c with destroy := some r } }) := by
            cases hn :
                (s.libs.getD lib default).newCallback ⟨[.ptr], .void⟩ (.destroyNotify conv) with
            | ok p =>
                refine ⟨.ok p.1, s.libs.modify lib fun _ => p.2, ?_⟩
                simp only [destroyNotify, run_bind, run_converter, hd, run_hostOf, hb, run_library,
                  hn, run_modifyLibrary, run_modifyConverter, run_pure, run_lift]
            | error e =>
                refine ⟨.error e, s.libs, ?_⟩
                simp only [destroyNotify, run_bind, run_converter, hd, run_hostOf, hb, run_library,
                  hn, run_modifyConverter, run_pure, run_lift]
          obtain ⟨r, libs, hrun⟩ := hmade
          rw [hrun]
          exact run_destroyNotify_made (destroy_modify_self s r hconv)

end Introspection.Marshal
