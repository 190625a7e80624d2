import Volleyer.Cards.Model
import Volleyer.Common.Writes
import Volleyer.LineUp.Steps

/-!
# Cards — what a step does

The pages of a device above its line-up are none, the page of a finder,
or that page and a camera page on it (`Stacked`). An event of the pages
changes only its device's, stores nothing, and issues nothing but reads
and, where a photo is sent, the first request of its call
(`cardIssue_cases`); what an answer changes is told request by request.
-/

namespace Volleyer

variable {url : String → ℕ → String} {isURL : String → Bool}
variable {s s' : CardApp} {ts : List CardTask} {a : CardCall} {t : CardTask}

/-! ## The pages of a device -/

/-- **The pages above the line-up.** `P` holds of the page of the finder,
and `Q` of the camera page on it. -/
inductive Stacked (P : ℕ → PlayOneFinderPage → Prop)
    (Q : PlayOneFinderPage → CameraViewController → Prop) : List CardScreen → Prop
  | nil : Stacked P Q []
  | finder {i : ℕ} {vc : PlayOneFinderPage} : P i vc → Stacked P Q [.finder i vc]
  | camera {i j : ℕ} {vc : PlayOneFinderPage} {camera : CameraViewController} :
      P i vc → Q vc camera → Stacked P Q [.camera j camera, .finder i vc]

namespace Stacked

variable {P P' : ℕ → PlayOneFinderPage → Prop}
variable {Q Q' : PlayOneFinderPage → CameraViewController → Prop}
variable {screens : List CardScreen}

theorem mono (h : Stacked P Q screens) (hP : ∀ i vc, P i vc → P' i vc)
    (hQ : ∀ vc camera, Q vc camera → Q' vc camera) : Stacked P' Q' screens := by
  cases h with
  | nil => exact .nil
  | finder hp => exact .finder (hP _ _ hp)
  | camera hp hq => exact .camera (hP _ _ hp) (hQ _ _ hq)

/-- The page on top is gone. -/
theorem tail (h : Stacked P Q screens) : Stacked P Q screens.tail := by
  cases h with
  | nil => exact .nil
  | finder hp => exact .nil
  | camera hp hq => exact .finder hp

/-- What holds of the page of a finder in the stack. -/
theorem of_mem (h : Stacked P Q screens) {i : ℕ} {vc : PlayOneFinderPage}
    (hmem : CardScreen.finder i vc ∈ screens) : P i vc := by
  cases h with
  | nil => cases hmem
  | finder hp =>
    obtain ⟨rfl, rfl⟩ := CardScreen.finder.inj (List.mem_singleton.1 hmem)
    exact hp
  | camera hp hq =>
    rcases List.mem_pair.1 hmem with heq | heq
    · cases heq
    · obtain ⟨rfl, rfl⟩ := CardScreen.finder.inj heq
      exact hp

/-- There is one page of a finder at most. -/
theorem unique (h : Stacked P Q screens) {i j : ℕ} {vc vc' : PlayOneFinderPage}
    (hmem : CardScreen.finder i vc ∈ screens) (hmem' : CardScreen.finder j vc' ∈ screens) :
    i = j ∧ vc = vc' := by
  have hone : ∃ i₀ vc₀, ∀ k w, CardScreen.finder k w ∈ screens → k = i₀ ∧ w = vc₀ := by
    cases h with
    | nil => cases hmem
    | @finder i₀ vc₀ hp =>
      refine ⟨i₀, vc₀, fun k w hw => ?_⟩
      obtain ⟨rfl, rfl⟩ := CardScreen.finder.inj (List.mem_singleton.1 hw)
      exact ⟨rfl, rfl⟩
    | @camera i₀ k₀ vc₀ camera hp hq =>
      refine ⟨i₀, vc₀, fun k w hw => ?_⟩
      rcases List.mem_pair.1 hw with heq | heq
      · cases heq
      · obtain ⟨rfl, rfl⟩ := CardScreen.finder.inj heq
        exact ⟨rfl, rfl⟩
  obtain ⟨i₀, vc₀, hall⟩ := hone
  obtain ⟨rfl, rfl⟩ := hall i vc hmem
  obtain ⟨rfl, rfl⟩ := hall j vc' hmem'
  exact ⟨rfl, rfl⟩

end Stacked

/-- What `viewWillAppear` issues is the read of the page on top. -/
theorem mem_viewWillAppear {device : ℕ} {screens : List CardScreen}
    (h : t ∈ CardApp.viewWillAppear device screens) :
    ∃ i vc, .finder i vc ∈ screens ∧
      t = .getPlayOneFinderData device i vc.finderInfo.firebaseId := by
  cases screens with
  | nil => cases h
  | cons screen screens =>
    cases screen with
    | finder i vc => exact ⟨i, vc, List.mem_cons_self, List.mem_singleton.1 h⟩
    | camera i vc => cases h

/-! ## Events of the pages -/

/-- **What an event does.** -/
inductive CardIssue (s : CardApp) : CardCall → CardApp → List CardTask → Prop
  | playOne {a : PlayOneCall} {playOne : PlayOneApp} {ts : List PlayOneTask} :
      playOneIssue s.playOne a = some (playOne, ts) →
      CardIssue s (.playOne a) { s with playOne := playOne } (ts.map .playOne)
  | finder {device whichCourt whichFinder : ℕ} {vc : PlayOneFinderPage} :
      s.navigation device = [] →
      vc.takePlayerPhotoButtonIsHidden =
        (some vc.finderInfo.firebaseId != s.playOne.firebaseId device) →
      vc.playerNameLabel = (fun _ => "Loading") → vc.playerImageView = (fun _ => none) →
      CardIssue s (.tapAFinder device whichCourt whichFinder)
        { s.setNavigation device [.finder s.made vc] with made := s.made + 1 }
        [.getPlayOneFinderData device s.made vc.finderInfo.firebaseId]
  | appear (device : ℕ) :
      CardIssue s (.viewWillAppear device) s (CardApp.viewWillAppear device (s.navigation device))
  | camera {device i : ℕ} {playerN : PlayerTitle} {vc : PlayOneFinderPage}
      {rest : List CardScreen} :
      s.navigation device = .finder i vc :: rest → vc.takePlayerPhotoButtonIsHidden = false →
      CardIssue s (.inputPlayerInfo device playerN)
        { s.setNavigation device
            (.camera s.made { finderInfo := vc.finderInfo, playerN := playerN } ::
              .finder i vc :: rest) with
          made := s.made + 1 }
        []
  | edit {a : CardCall} {device i : ℕ} {vc vc' : CameraViewController} {rest : List CardScreen} :
      s.navigation device = .camera i vc :: rest → vc'.finderInfo = vc.finderInfo →
      (∀ d, a ≠ .dismissSelf d) →
      CardIssue s a (s.setNavigation device (.camera i vc' :: rest)) []
  | send (device : ℕ) :
      CardIssue s (.dismissSelf device) { s with made := s.made + 1 }
        ((s.submission device).toList.map .putData)
  | back (device : ℕ) :
      CardIssue s (.back device)
        (s.setNavigation device (s.navigation device).tail)
        (CardApp.viewWillAppear device (s.navigation device).tail)

theorem cardIssue_cases (h : cardIssue s a = some (s', ts)) : CardIssue s a s' ts := by
  cases a with
  | playOne b =>
    obtain ⟨-, h⟩ := Option.ite_none_right_eq_some.1 h
    obtain ⟨⟨playOne, ts'⟩, hissue, heq⟩ := Option.map_eq_some_iff.1 h
    obtain ⟨rfl, rfl⟩ := Prod.mk.inj heq
    exact .playOne hissue
  | tapAFinder device whichCourt whichFinder =>
    obtain ⟨⟨-, hempty⟩, h⟩ := Option.ite_none_right_eq_some.1 h
    have hnil : s.navigation device = [] := List.isEmpty_iff.1 hempty
    split at h
    · cases h
    · split at h
      · cases h
      · obtain ⟨rfl, rfl⟩ := Prod.mk.inj (Option.some.inj h)
        rw [hnil]
        exact .finder hnil rfl rfl rfl
  | viewWillAppear device =>
    obtain ⟨rfl, rfl⟩ := Prod.mk.inj (Option.some.inj h)
    exact .appear device
  | inputPlayerInfo device playerN =>
    simp only [cardIssue] at h
    split at h
    · rename_i i vc rest hnav
      obtain ⟨hhidden, h⟩ := Option.ite_none_left_eq_some.1 h
      obtain ⟨rfl, rfl⟩ := Prod.mk.inj (Option.some.inj h)
      exact .camera hnav (Bool.eq_false_iff.2 hhidden)
    · cases h
  | editName device text =>
    simp only [cardIssue] at h
    split at h
    · rename_i i vc rest hnav
      obtain ⟨rfl, rfl⟩ := Prod.mk.inj (Option.some.inj h)
      exact .edit hnav rfl (fun d => CardCall.noConfusion)
    · cases h
  | takePhoto device imageData =>
    simp only [cardIssue] at h
    split at h
    · rename_i i vc rest hnav
      obtain ⟨-, h⟩ := Option.ite_none_right_eq_some.1 h
      obtain ⟨rfl, rfl⟩ := Prod.mk.inj (Option.some.inj h)
      exact .edit hnav rfl (fun d => CardCall.noConfusion)
    · cases h
  | dismissSelf device =>
    simp only [cardIssue] at h
    split at h
    · obtain ⟨-, h⟩ := Option.ite_none_right_eq_some.1 h
      obtain ⟨rfl, rfl⟩ := Prod.mk.inj (Option.some.inj h)
      exact .send device
    · cases h
  | back device =>
    obtain ⟨-, h⟩ := Option.ite_none_left_eq_some.1 h
    obtain ⟨rfl, rfl⟩ := Prod.mk.inj (Option.some.inj h)
    exact .back device

/-- A photo sent: its page is on top, with the photo and the name. -/
theorem submission_eq_some {device : ℕ} {x : SaveImage} (h : s.submission device = some x) :
    ∃ vc rest, s.navigation device = .camera x.page vc :: rest ∧ x.device = device ∧
      x.number = s.made ∧ x.finder = vc.finderInfo.firebaseId ∧ x.playerN = vc.playerN ∧
      vc.imageTook = some x.imageData ∧ x.playerName = vc.nameTextField ∧ x.playerName ≠ "" := by
  unfold CardApp.submission at h
  split at h
  · rename_i i vc rest hnav
    split at h
    · rename_i imageTook himage
      obtain ⟨hname, hx⟩ := Option.ite_none_right_eq_some.1 h
      obtain rfl := Option.some.inj hx
      exact ⟨vc, rest, hnav, rfl, rfl, rfl, rfl, himage, rfl, hname⟩
    · cases h
  · cases h

/-- The call an event of the pages starts. -/
def CardApp.sent (s : CardApp) : CardCall → List SaveImage
  | .dismissSelf device => (s.submission device).toList
  | _ => []

/-- The photos sent in a run, in order. -/
def submitted (c : Config CardApp CardTask) : Event CardCall Reply → List SaveImage
  | .call a => c.state.sent a
  | .answer _ _ => []

/-- The object an answered request stores. -/
def CardApp.stored (s : CardApp) : CardTask → List StoredImage
  | .putData call => [⟨call, s.uploads⟩]
  | _ => []

/-- The objects stored in a run, in order. -/
def storedImages (c : Config CardApp CardTask) : Event CardCall Reply → List StoredImage
  | .answer i .ok => (c.pending[i]?).elim [] c.state.stored
  | _ => []

/-- Where a photo is sent, its page is on top. -/
theorem mem_submitted {c : Config CardApp CardTask} {e : Event CardCall Reply} {x : SaveImage}
    (h : x ∈ submitted c e) :
    e = .call (.dismissSelf x.device) ∧ c.state.submission x.device = some x := by
  cases e with
  | answer i r => cases h
  | call a =>
    cases a with
    | dismissSelf device =>
      have hx := Option.mem_toList.1 h
      obtain ⟨-, -, -, hdevice, -⟩ := submission_eq_some hx
      subst hdevice
      exact ⟨rfl, hx⟩
    | _ => cases h

/-! ## What is stored, and what is in flight -/

/-- The call whose first request a task is. -/
def CardTask.asPut : CardTask → Option SaveImage
  | .putData call => some call
  | _ => none

/-- The call a task goes on with. -/
def CardTask.thread : CardTask → Option SaveImage
  | .putData call => some call
  | .downloadURL call => some call
  | .updateData call _ => some call
  | _ => none

/-- **An event of the pages** stores nothing, and starts the call of the
photo it sends alone. -/
theorem cardIssue_stores (h : cardIssue s a = some (s', ts)) :
    s'.storage = s.storage ∧ s'.playOne.playOneFinders = s.playOne.playOneFinders ∧
      s.made ≤ s'.made ∧ (∀ x ∈ s.sent a, x.number = s.made ∧ s'.made = s.made + 1) ∧
      ∃ rest, ts = (s.sent a).map .putData ++ rest ∧ ∀ t ∈ rest, t.thread = none := by
  have hread : ∀ {device : ℕ} {screens : List CardScreen},
      ∀ t ∈ CardApp.viewWillAppear device screens, t.thread = none := by
    intro device screens t ht
    obtain ⟨i, vc, -, rfl⟩ := mem_viewWillAppear ht
    rfl
  cases cardIssue_cases h with
  | playOne hissue =>
    obtain ⟨-, -, hfinders⟩ := playOneIssue_courts hissue
    refine ⟨rfl, hfinders, le_refl _, fun x hx => absurd hx List.not_mem_nil, _, rfl,
      fun t ht => ?_⟩
    obtain ⟨u, -, rfl⟩ := List.mem_map.1 ht
    rfl
  | finder =>
    refine ⟨rfl, rfl, Nat.le_succ _, fun x hx => absurd hx List.not_mem_nil, _, rfl,
      fun t ht => ?_⟩
    obtain rfl := List.mem_singleton.1 ht
    rfl
  | appear =>
    exact ⟨rfl, rfl, le_refl _, fun x hx => absurd hx List.not_mem_nil, _, rfl, hread⟩
  | camera =>
    exact ⟨rfl, rfl, Nat.le_succ _, fun x hx => absurd hx List.not_mem_nil, _, rfl,
      fun t ht => absurd ht List.not_mem_nil⟩
  | @edit a _ _ _ _ _ _ _ hnot =>
    have hsent : s.sent a = [] := by
      cases a with
      | dismissSelf d => exact absurd rfl (hnot d)
      | _ => rfl
    rw [hsent]
    exact ⟨rfl, rfl, le_refl _, fun x hx => absurd hx List.not_mem_nil, _, rfl,
      fun t ht => absurd ht List.not_mem_nil⟩
  | send device =>
    refine ⟨rfl, rfl, Nat.le_succ _, fun x hx => ⟨?_, rfl⟩, [], (List.append_nil _).symm,
      fun t ht => absurd ht List.not_mem_nil⟩
    obtain ⟨-, -, -, -, hnumber, -⟩ := submission_eq_some (Option.mem_toList.1 hx)
    exact hnumber
  | back device =>
    exact ⟨rfl, rfl, le_refl _, fun x hx => absurd hx List.not_mem_nil, _, rfl, hread⟩

/-- **What an answer puts in flight** of the calls: the next request of the
one it answers. -/
theorem thread_answerOk (url : String → ℕ → String) (isURL : String → Bool) (s : CardApp)
    (t : CardTask) : (cardAnswerOk url isURL s t).1.made = s.made ∧
      (cardAnswerOk url isURL s t).1.storage = (match t with
        | .putData call => s.storage.set call.savePath ⟨call, s.uploads⟩
        | _ => s.storage) ∧
      ∀ t' ∈ (cardAnswerOk url isURL s t).2, t'.thread = none ∨
        (∃ call, t = .putData call ∧ t' = .downloadURL call) ∨
        ∃ call object, t = .downloadURL call ∧ s.storage.get call.savePath = some object ∧
          t' = .updateData call (url call.savePath object.number) := by
  cases t with
  | playOne u =>
    refine ⟨rfl, rfl, fun t' ht' => ?_⟩
    obtain ⟨v, -, rfl⟩ := List.mem_map.1 ht'
    exact Or.inl rfl
  | putData call =>
    refine ⟨rfl, rfl, fun t' ht' => ?_⟩
    obtain rfl := List.mem_singleton.1 ht'
    exact Or.inr (Or.inl ⟨call, rfl, rfl⟩)
  | downloadURL call =>
    simp only [cardAnswerOk]
    cases hget : s.storage.get call.savePath with
    | none => exact ⟨rfl, rfl, fun t' ht' => absurd ht' List.not_mem_nil⟩
    | some object =>
      refine ⟨rfl, rfl, fun t' ht' => ?_⟩
      obtain rfl := List.mem_singleton.1 ht'
      exact Or.inr (Or.inr ⟨call, object, rfl, hget, rfl⟩)
  | updateData call urlString =>
    simp only [cardAnswerOk]
    cases s.playOne.playOneFinders.get call.finder with
    | none => exact ⟨rfl, rfl, fun t' ht' => absurd ht' List.not_mem_nil⟩
    | some document =>
      dsimp only
      split
      · refine ⟨rfl, rfl, fun t' ht' => ?_⟩
        obtain ⟨i, vc, -, rfl⟩ := mem_viewWillAppear ht'
        exact Or.inl rfl
      · exact ⟨rfl, rfl, fun t' ht' => absurd ht' List.not_mem_nil⟩
  | getPlayOneFinderData device number finder =>
    simp only [cardAnswerOk]
    cases s.playOne.playOneFinders.get finder with
    | none => exact ⟨rfl, rfl, fun t' ht' => absurd ht' List.not_mem_nil⟩
    | some document => exact ⟨rfl, rfl, fun t' ht' => absurd ht' List.not_mem_nil⟩

end Volleyer
