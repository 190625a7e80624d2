import Volleyer.Cards.Steps
import Volleyer.LineUp.Once

/-!
# Cards — whose names and photos they are

The store lets anybody write any card. That a card says only what its
finder put there is a matter of the pages: the camera buttons are hidden
from everybody else, and a page carries the finder and the player it was
opened for to the write. So whatever is delivered late, fails or is sent
from several devices, every name and photo of a card was sent from a
device of its finder for that place of the card, and a page shows nothing
else (`signed_of_run`).
-/

namespace Volleyer

variable {url : String → ℕ → String} {isURL : String → Bool} {account : ℕ → Option String}
variable {xs xs' : List SaveImage} {os os' : List StoredImage} {s s' : CardApp} {f : String}
variable {n : PlayerTitle}
variable {vc vc' : PlayOneFinderPage} {t : CardTask} {c : Config CardApp CardTask}

/-! ## What is claimed -/

/-- **An address of a place**: one object stored for it has it. -/
def StoredAt (url : String → ℕ → String) (os : List StoredImage) (f : String) (n : PlayerTitle)
    (image : String) : Prop :=
  ∃ object ∈ os, object.upload.savePath = savePath f n ∧
    image = url (savePath f n) object.number

/-- **A place of a card** is empty, or a call for it gave the name, and an
object stored for it has the address. -/
def SignedCard (url : String → ℕ → String) (xs : List SaveImage) (os : List StoredImage)
    (f : String) (n : PlayerTitle) (playerN : PlayerN) : Prop :=
  playerN = ⟨"", ""⟩ ∨ ∃ x ∈ xs, x.finder = f ∧ x.playerN = n ∧ playerN.name = x.playerName ∧
    StoredAt url os f n playerN.image

/-- **A page of a finder** shows what calls for its finder gave, place by
place. -/
def PageSigned (url : String → ℕ → String) (xs : List SaveImage) (os : List StoredImage)
    (vc : PlayOneFinderPage) : Prop :=
  ∀ n, (vc.playerNameLabel n = "Loading" ∨ vc.playerNameLabel n = "目前沒人" ∨
      ∃ x ∈ xs, x.finder = vc.finderInfo.firebaseId ∧ x.playerN = n ∧
        vc.playerNameLabel n = x.playerName) ∧
    ∀ image, vc.playerImageView n = some image →
      StoredAt url os vc.finderInfo.firebaseId n image

/-! ## What a page shows -/

namespace PlayOneFinderPage

/-- A delivery leaves whose page it is. -/
theorem foldl_showPlayer_eq (isURL : String → Bool) (players : List (PlayerTitle × PlayerN))
    (vc : PlayOneFinderPage) :
    (players.foldl (showPlayer isURL) vc).finderInfo = vc.finderInfo ∧
      (players.foldl (showPlayer isURL) vc).takePlayerPhotoButtonIsHidden =
        vc.takePlayerPhotoButtonIsHidden := by
  induction players generalizing vc with
  | nil => exact ⟨rfl, rfl⟩
  | cons player players ih => exact ih (showPlayer isURL vc player)

@[simp] theorem finderInfo_didget (isURL : String → Bool) (vc : PlayOneFinderPage)
    (players : List PlayerN) : (vc.didget isURL players).finderInfo = vc.finderInfo :=
  (foldl_showPlayer_eq isURL _ vc).1

@[simp] theorem isHidden_didget (isURL : String → Bool) (vc : PlayOneFinderPage)
    (players : List PlayerN) : (vc.didget isURL players).takePlayerPhotoButtonIsHidden =
      vc.takePlayerPhotoButtonIsHidden :=
  (foldl_showPlayer_eq isURL _ vc).2

/-- **A delivery shows each name** in its place. -/
theorem playerNameLabel_didget (isURL : String → Bool) (vc : PlayOneFinderPage)
    (document : Doc PlayerTitle) (n : PlayerTitle) :
    (vc.didget isURL (fivePlayersData document)).playerNameLabel n =
      if (decodePlayerN document n).name = "" then "目前沒人"
      else (decodePlayerN document n).name := by
  cases n <;> simp [didget, showPlayer, fivePlayersData, playersTitle, Function.update]

/-- **And each photo** that has an address: the others stay as they were. -/
theorem playerImageView_didget (isURL : String → Bool) (vc : PlayOneFinderPage)
    (document : Doc PlayerTitle) (n : PlayerTitle) :
    (vc.didget isURL (fivePlayersData document)).playerImageView n =
      if isURL (decodePlayerN document n).image then some (decodePlayerN document n).image
      else vc.playerImageView n := by
  have hshow : ∀ (vc : PlayOneFinderPage) (player : PlayerTitle × PlayerN),
      (showPlayer isURL vc player).playerImageView n =
        if player.1 = n ∧ isURL player.2.image then some player.2.image
        else vc.playerImageView n := by
    intro vc player
    by_cases hurl : isURL player.2.image
    · by_cases hn : player.1 = n
      · simp [showPlayer, hurl, hn]
      · simp [showPlayer, hurl, hn, Function.update_of_ne fun h => hn h.symm]
    · simp [showPlayer, hurl]
  show ((playersTitle.zip (playersTitle.map (decodePlayerN document))).foldl (showPlayer isURL)
    vc).playerImageView n = _
  cases n <;> simp [playersTitle, hshow]

end PlayOneFinderPage

/-- What is delivered of a signed card is signed. -/
theorem PageSigned.didget (hempty : isURL "" = false) (h : PageSigned url xs os vc)
    {document : Doc PlayerTitle} (hcards : ∀ n,
      SignedCard url xs os vc.finderInfo.firebaseId n (decodePlayerN document n)) :
    PageSigned url xs os (vc.didget isURL (fivePlayersData document)) := by
  intro n
  rw [vc.playerNameLabel_didget, vc.playerImageView_didget, vc.finderInfo_didget]
  rcases hcards n with hblank | ⟨x, hx, hfinder, hplayer, hname, himage⟩
  · rw [hblank, if_pos rfl, hempty, if_neg Bool.false_ne_true]
    exact ⟨Or.inr (Or.inl rfl), (h n).2⟩
  · refine ⟨?_, fun image hi => ?_⟩
    · split
      · exact Or.inr (Or.inl rfl)
      · exact Or.inr (Or.inr ⟨x, hx, hfinder, hplayer, hname⟩)
    · split at hi
      · obtain rfl := Option.some.inj hi
        exact himage
      · exact (h n).2 image hi

/-! ## Later calls take nothing away -/

theorem StoredAt.mono {image : String} (h : StoredAt url os f n image) (hos : os ⊆ os') :
    StoredAt url os' f n image := by
  obtain ⟨object, hobject, hrest⟩ := h
  exact ⟨object, hos hobject, hrest⟩

theorem SignedCard.mono {playerN : PlayerN} (h : SignedCard url xs os f n playerN) (hxs : xs ⊆ xs')
    (hos : os ⊆ os') : SignedCard url xs' os' f n playerN := by
  rcases h with hblank | ⟨x, hx, hfinder, hplayer, hname, himage⟩
  · exact Or.inl hblank
  · exact Or.inr ⟨x, hxs hx, hfinder, hplayer, hname, himage.mono hos⟩

theorem PageSigned.mono (h : PageSigned url xs os vc) (hxs : xs ⊆ xs') (hos : os ⊆ os') :
    PageSigned url xs' os' vc := by
  intro n
  obtain ⟨hname, himage⟩ := h n
  refine ⟨?_, fun image hi => (himage image hi).mono hos⟩
  rcases hname with hloading | hnobody | ⟨x, hx, hrest⟩
  · exact Or.inl hloading
  · exact Or.inr (Or.inl hnobody)
  · exact Or.inr (Or.inr ⟨x, hxs hx, hrest⟩)

/-! ## The invariant -/

/-- **A request in flight** carries what a call gave, or reads for a page
the card of its finder. -/
def CardTask.Signed (url : String → ℕ → String) (xs : List SaveImage) (os : List StoredImage)
    (s : CardApp) : CardTask → Prop
  | .playOne _ => True
  | .putData call => call ∈ xs
  | .downloadURL call => call ∈ xs
  | .updateData call urlString =>
      call ∈ xs ∧ StoredAt url os call.finder call.playerN urlString
  | .getPlayOneFinderData device number finder => number < s.made ∧
      ∀ vc, .finder number vc ∈ s.navigation device → vc.finderInfo.firebaseId = finder

/-- The pages of a device: that of a finder shows the camera buttons to the
finder alone, so a camera page is opened by none else. -/
def PagesSigned (url : String → ℕ → String) (account : Option String) (xs : List SaveImage)
    (os : List StoredImage) (s : CardApp) : List CardScreen → Prop :=
  Stacked
    (fun i vc => i < s.made ∧
      vc.takePlayerPhotoButtonIsHidden = (some vc.finderInfo.firebaseId != account) ∧
      PageSigned url xs os vc)
    (fun _ camera => account = some camera.finderInfo.firebaseId)

/-- **Everything is signed**: the calls by the accounts of their devices, the
cards, the objects stored and the pages by the calls. -/
structure AllSigned (url : String → ℕ → String) (account : ℕ → Option String)
    (xs : List SaveImage) (os : List StoredImage) (s : CardApp) : Prop where
  signedIn : s.playOne.firebaseId = account
  calls : ∀ x ∈ xs, account x.device = some x.finder ∧ x.playerName ≠ ""
  cards : ∀ f document, s.playOne.playOneFinders.get f = some document →
    ∀ n, SignedCard url xs os f n (decodePlayerN document n)
  photos : ∀ path object, s.storage.get path = some object →
    object ∈ os ∧ path = object.upload.savePath
  objects : ∀ object ∈ os, object.upload ∈ xs
  pages : ∀ device, PagesSigned url (account device) xs os s (s.navigation device)

/-- A request in flight stays signed where no page takes another's number. -/
theorem CardTask.Signed.mono (h : t.Signed url xs os s) (hxs : xs ⊆ xs') (hos : os ⊆ os')
    (hmade : s.made ≤ s'.made)
    (hpages : ∀ device i vc, .finder i vc ∈ s'.navigation device → s.made ≤ i ∨
      ∃ vc₀, .finder i vc₀ ∈ s.navigation device ∧ vc.finderInfo = vc₀.finderInfo) :
    t.Signed url xs' os' s' := by
  cases t with
  | playOne t => trivial
  | putData call => exact hxs h
  | downloadURL call => exact hxs h
  | updateData call urlString => exact ⟨hxs h.1, h.2.mono hos⟩
  | getPlayOneFinderData device i finder =>
    refine ⟨lt_of_lt_of_le h.1 hmade, fun vc hvc => ?_⟩
    rcases hpages device i vc hvc with hi | ⟨vc₀, hvc₀, heq⟩
    · exact absurd h.1 (by omega)
    · rw [heq]
      exact h.2 vc₀ hvc₀

/-- The card `createPlayOneFinder` stores is empty. -/
theorem decodePlayerN_create (n : PlayerTitle) :
    decodePlayerN (Doc.setData createPlayOneFinderData) n = ⟨"", ""⟩ := by
  cases n <;> rfl

/-- A place another call wrote is what it wrote, the others are what they
were. -/
theorem decodePlayerN_updateData (document : Doc PlayerTitle) (n m : PlayerTitle)
    (playerN : PlayerN) : decodePlayerN (document.updateData [(m, playerN.value)]) n =
      if n = m then playerN else decodePlayerN document n := by
  by_cases h : n = m
  · subst h
    rw [if_pos rfl]
    exact decodePlayerN_of_value (Doc.updateData_singleton_self _ _ _)
  · rw [if_neg h, decodePlayerN, Doc.updateData_singleton_of_ne _ _ h]
    rfl

/-- **What the requests of the line-up do to the cards**: one is made empty,
or removed. -/
theorem get_playOneFinders_answerOk (s : PlayOneApp) (t : PlayOneTask) (f : String)
    {document : Doc PlayerTitle}
    (h : (playOneAnswerOk s t).1.playOneFinders.get f = some document) :
    s.playOneFinders.get f = some document ∨
      document = Doc.setData createPlayOneFinderData := by
  cases t with
  | createPlayOneFinder finder =>
    rw [playOneAnswerOk, Collection.get_set] at h
    split at h
    · exact Or.inr (Option.some.inj h).symm
    · exact Or.inl h
  | deletaPlayOnefinder finder =>
    rw [playOneAnswerOk, Collection.get_delete] at h
    split at h
    · cases h
    · exact Or.inl h
  | edit | listenPlayOne | getPlayOneCourts => exact Or.inl h

/-- A page after a delivery is a page before it, of the same finder. -/
theorem mem_didget {number i : ℕ} {players : List PlayerN} {screens : List CardScreen}
    (h : .finder i vc ∈ screens.map (CardScreen.didget isURL number players)) :
    ∃ vc₀, .finder i vc₀ ∈ screens ∧ vc.finderInfo = vc₀.finderInfo := by
  obtain ⟨screen, hscreen, heq⟩ := List.mem_map.1 h
  cases screen with
  | camera j camera => cases heq
  | finder j vc₀ =>
    obtain ⟨rfl, rfl⟩ := CardScreen.finder.inj heq
    refine ⟨vc₀, hscreen, ?_⟩
    split
    · rw [PlayOneFinderPage.finderInfo_didget]
    · rfl

/-- A delivery keeps the pages of a device signed. -/
theorem pagesSigned_didget {account : Option String} {number : ℕ} {players : List PlayerN}
    {screens : List CardScreen} (h : PagesSigned url account xs os s screens)
    (hdeliver : ∀ vc, .finder number vc ∈ screens → PageSigned url xs os vc →
      PageSigned url xs os (vc.didget isURL players)) :
    PagesSigned url account xs os s (screens.map (CardScreen.didget isURL number players)) := by
  have hpage : ∀ {i vc}, .finder i vc ∈ screens →
      i < s.made ∧ vc.takePlayerPhotoButtonIsHidden =
        (some vc.finderInfo.firebaseId != account) ∧ PageSigned url xs os vc →
      ∃ vc', CardScreen.didget isURL number players (.finder i vc) = .finder i vc' ∧
        i < s.made ∧ vc'.takePlayerPhotoButtonIsHidden =
          (some vc'.finderInfo.firebaseId != account) ∧ PageSigned url xs os vc' := by
    rintro i vc hmem ⟨hi, hhidden, hp⟩
    refine ⟨_, rfl, hi, ?_⟩
    split
    · rename_i heq
      subst heq
      refine ⟨?_, hdeliver vc hmem hp⟩
      rw [PlayOneFinderPage.isHidden_didget,
        PlayOneFinderPage.finderInfo_didget, hhidden]
    · exact ⟨hhidden, hp⟩
  cases h with
  | nil => exact .nil
  | finder hp =>
    obtain ⟨vc', heq, hp'⟩ := hpage (List.mem_singleton_self _) hp
    rw [List.map_singleton, heq]
    exact .finder hp'
  | camera hp hq =>
    obtain ⟨vc', heq, hp'⟩ := hpage (List.mem_cons_of_mem _ (List.mem_singleton_self _)) hp
    rw [List.map_cons, List.map_singleton, heq]
    exact .camera hp' hq

namespace AllSigned

variable {ts : List CardTask} {a : CardCall}

/-- The pages of one device change, and nothing is stored. -/
theorem setNavigation (h : AllSigned url account xs os s) (device : ℕ) {made : ℕ}
    (screens : List CardScreen) (hmade : s.made ≤ made)
    (hpages : ∀ i vc, .finder i vc ∈ screens → s.made ≤ i ∨
      ∃ vc₀, .finder i vc₀ ∈ s.navigation device ∧ vc.finderInfo = vc₀.finderInfo)
    (hscreens : PagesSigned url (account device) xs os { s with made := made } screens) :
    AllSigned url account xs os { s.setNavigation device screens with made := made } ∧
      ∀ t : CardTask, t.Signed url xs os s →
        t.Signed url xs os { s.setNavigation device screens with made := made } := by
  refine ⟨⟨h.signedIn, h.calls, h.cards, h.photos, h.objects, fun d => ?_⟩, fun t ht => ?_⟩
  · show PagesSigned url (account d) xs os _ (Function.update s.navigation device screens d)
    by_cases hd : d = device
    · subst hd
      rw [Function.update_self]
      exact hscreens
    · rw [Function.update_of_ne hd]
      exact (h.pages d).mono (fun i vc hp => ⟨lt_of_lt_of_le hp.1 hmade, hp.2⟩) fun _ _ hq => hq
  · refine ht.mono (List.Subset.refl xs) (List.Subset.refl os) hmade fun d i vc hvc => ?_
    have hvc' : .finder i vc ∈ Function.update s.navigation device screens d := hvc
    by_cases hd : d = device
    · subst hd
      rw [Function.update_self] at hvc'
      exact hpages i vc hvc'
    · rw [Function.update_of_ne hd] at hvc'
      exact Or.inr ⟨vc, hvc', rfl⟩

/-- The page on top goes. -/
theorem popViewController (h : AllSigned url account xs os s) (device : ℕ) :
    AllSigned url account xs os (s.popViewController device).1 ∧
      (∀ t ∈ (s.popViewController device).2, t.Signed url xs os (s.popViewController device).1) ∧
      ∀ t : CardTask, t.Signed url xs os s →
        t.Signed url xs os (s.popViewController device).1 := by
  have htail : ∀ i vc, .finder i vc ∈ (s.navigation device).tail →
      .finder i vc ∈ s.navigation device := fun i vc => List.mem_of_mem_tail
  have hscreens := (h.pages device).tail
  obtain ⟨hsigned, htasks⟩ := h.setNavigation device (s.navigation device).tail (le_refl s.made)
    (fun i vc hvc => Or.inr ⟨vc, htail i vc hvc, rfl⟩) hscreens
  refine ⟨hsigned, fun t ht => ?_, htasks⟩
  obtain ⟨i, vc, hmem, rfl⟩ := mem_viewWillAppear ht
  refine ⟨(hscreens.of_mem hmem).1, fun vc' hvc' => ?_⟩
  have hvc : .finder i vc' ∈
      Function.update s.navigation device (s.navigation device).tail device := hvc'
  rw [Function.update_self] at hvc
  obtain ⟨-, rfl⟩ := hscreens.unique hmem hvc
  rfl

/-- One more call, by the account of its device. -/
theorem send (h : AllSigned url account xs os s) (device : ℕ) {made : ℕ} (hmade : s.made ≤ made) :
    AllSigned url account (xs ++ (s.submission device).toList) os { s with made := made } := by
  have hxs : xs ⊆ xs ++ (s.submission device).toList := List.subset_append_left _ _
  refine ⟨h.signedIn, fun x hx => ?_, fun f document hdocument n => ?_, h.photos,
    fun object hobject => hxs (h.objects object hobject), fun d => ?_⟩
  · rcases List.mem_append.1 hx with hx | hx
    · exact h.calls x hx
    · obtain ⟨vc, rest, hnav, rfl, -, hfinder, -, -, -, hname⟩ :=
        submission_eq_some (Option.mem_toList.1 hx)
      have hpage := h.pages x.device
      rw [hnav] at hpage
      cases hpage with
      | camera hp hq => exact ⟨hfinder ▸ hq, hname⟩
  · exact (h.cards f document hdocument n).mono hxs (List.Subset.refl os)
  · refine (h.pages d).mono (fun i vc hp => ?_) fun _ _ hq => hq
    exact ⟨lt_of_lt_of_le hp.1 hmade, hp.2.1, hp.2.2.mono hxs (List.Subset.refl os)⟩

/-- **An event of the pages** keeps everything signed. -/
theorem issue (h : AllSigned url account xs os s) (hi : cardIssue s a = some (s', ts)) :
    AllSigned url account (xs ++ s.sent a) os s' ∧
      (∀ t ∈ ts, t.Signed url (xs ++ s.sent a) os s') ∧
      ∀ t : CardTask, t.Signed url xs os s → t.Signed url (xs ++ s.sent a) os s' := by
  cases cardIssue_cases hi with
  | @playOne b playOne ts' hissue =>
    obtain ⟨-, hfirebaseId, hfinders⟩ := playOneIssue_courts hissue
    have hsent : s.sent (.playOne b) = [] := rfl
    rw [hsent, List.append_nil]
    refine ⟨⟨hfirebaseId.trans h.signedIn, h.calls, ?_, h.photos, h.objects, h.pages⟩,
      fun t ht => ?_, fun t ht => ?_⟩
    · intro f document hdocument
      exact h.cards f document (hfinders ▸ hdocument)
    · obtain ⟨u, -, rfl⟩ := List.mem_map.1 ht
      trivial
    · exact ht.mono (List.Subset.refl xs) (List.Subset.refl os) (le_refl _) fun _ _ vc hvc =>
        Or.inr ⟨vc, hvc, rfl⟩
  | @finder device whichCourt whichFinder vc hnil hhidden hlabel himage =>
    have hsent : s.sent (.tapAFinder device whichCourt whichFinder) = [] := rfl
    rw [hsent, List.append_nil]
    have hpage : PageSigned url xs os vc := fun n =>
      ⟨Or.inl (by rw [hlabel]), fun image hi => by rw [himage] at hi; cases hi⟩
    rw [h.signedIn] at hhidden
    obtain ⟨hsigned, htasks⟩ := h.setNavigation device [.finder s.made vc] (Nat.le_succ s.made)
      (fun i vc' hvc' => Or.inl (CardScreen.finder.inj (List.mem_singleton.1 hvc')).1.ge)
      (.finder ⟨Nat.lt_succ_self _, hhidden, hpage⟩)
    refine ⟨hsigned, fun t ht => ?_, htasks⟩
    obtain rfl := List.mem_singleton.1 ht
    refine ⟨Nat.lt_succ_self _, fun vc' hvc' => ?_⟩
    have hvc : .finder s.made vc' ∈
        Function.update s.navigation device [.finder s.made vc] device := hvc'
    rw [Function.update_self] at hvc
    rw [(CardScreen.finder.inj (List.mem_singleton.1 hvc)).2]
  | appear device =>
    have hsent : s.sent (.viewWillAppear device) = [] := rfl
    rw [hsent, List.append_nil]
    refine ⟨h, fun t ht => ?_, fun t ht => ht⟩
    obtain ⟨i, vc, hmem, rfl⟩ := mem_viewWillAppear ht
    refine ⟨((h.pages device).of_mem hmem).1, fun vc' hvc' => ?_⟩
    rw [((h.pages device).unique hmem hvc').2]
  | @camera device i playerN vc rest hnav hhidden =>
    have hsent : s.sent (.inputPlayerInfo device playerN) = [] := rfl
    rw [hsent, List.append_nil]
    have hpages := h.pages device
    rw [hnav] at hpages
    cases hpages with
    | finder hp =>
      have haccount : account device = some vc.finderInfo.firebaseId := by
        have hboth := hp.2.1.symm.trans hhidden
        exact (by simpa using hboth : some vc.finderInfo.firebaseId = account device).symm
      have hkept : ∀ j vc', CardScreen.finder j vc' ∈
          [CardScreen.camera s.made { finderInfo := vc.finderInfo, playerN := playerN },
            .finder i vc] → CardScreen.finder j vc' ∈ s.navigation device := by
        intro j vc' hvc'
        rw [hnav]
        exact (List.mem_cons.1 hvc').resolve_left CardScreen.noConfusion
      obtain ⟨hsigned, htasks⟩ := h.setNavigation device _ (Nat.le_succ s.made)
        (fun j vc' hvc' => Or.inr ⟨vc', hkept j vc' hvc', rfl⟩)
        (.camera ⟨hp.1.trans (Nat.lt_succ_self _), hp.2⟩ haccount)
      exact ⟨hsigned, fun t ht => absurd ht List.not_mem_nil, htasks⟩
  | @edit a device i vc vc' rest hnav hinfo hnot =>
    have hsent : s.sent a = [] := by
      cases a with
      | dismissSelf d => exact absurd rfl (hnot d)
      | _ => rfl
    rw [hsent, List.append_nil]
    have hpages := h.pages device
    rw [hnav] at hpages
    cases hpages with
    | @camera j _ page _ hp hq =>
      have hkept : ∀ k vc₁, CardScreen.finder k vc₁ ∈
          [CardScreen.camera i vc', .finder j page] →
          CardScreen.finder k vc₁ ∈ s.navigation device := by
        intro k vc₁ hvc₁
        rw [hnav]
        exact List.mem_cons_of_mem _ ((List.mem_cons.1 hvc₁).resolve_left CardScreen.noConfusion)
      obtain ⟨hsigned, htasks⟩ := h.setNavigation device _ (le_refl s.made)
        (fun k vc₁ hvc₁ => Or.inr ⟨vc₁, hkept k vc₁ hvc₁, rfl⟩) (.camera hp (hinfo ▸ hq))
      exact ⟨hsigned, fun t ht => absurd ht List.not_mem_nil, htasks⟩
  | send device =>
    refine ⟨h.send device (Nat.le_succ _), fun t ht => ?_, fun t ht => ?_⟩
    · obtain ⟨x, hx, rfl⟩ := List.mem_map.1 ht
      exact List.mem_append_right xs hx
    · exact ht.mono (List.subset_append_left _ _) (List.Subset.refl os) (Nat.le_succ _)
        fun _ _ vc hvc => Or.inr ⟨vc, hvc, rfl⟩
  | back device =>
    have hsent : s.sent (.back device) = [] := rfl
    rw [hsent, List.append_nil]
    exact h.popViewController device

/-- **What an answer leaves signed**: the state, what it puts in flight, and
what was in flight before. -/
def AnswerSigned (url : String → ℕ → String) (isURL : String → Bool) (account : ℕ → Option String)
    (xs : List SaveImage) (os : List StoredImage) (s : CardApp) (t : CardTask) : Prop :=
  AllSigned url account xs (os ++ s.stored t) (cardAnswerOk url isURL s t).1 ∧
    (∀ t' ∈ (cardAnswerOk url isURL s t).2,
      t'.Signed url xs (os ++ s.stored t) (cardAnswerOk url isURL s t).1) ∧
    ∀ t' : CardTask, t'.Signed url xs os s →
      t'.Signed url xs (os ++ s.stored t) (cardAnswerOk url isURL s t).1

/-- What is in flight does not see the cards, nor what is stored beside. -/
theorem signed_of_same (ht : t.Signed url xs os s) (hos : os ⊆ os') (hmade : s'.made = s.made)
    (hnav : s'.navigation = s.navigation) : t.Signed url xs os' s' :=
  ht.mono (List.Subset.refl xs) hos hmade.ge fun _ _ vc hvc => Or.inr ⟨vc, hnav ▸ hvc, rfl⟩

/-- A request of the line-up is answered: a card it makes is empty. -/
theorem answer_playOne (h : AllSigned url account xs os s) (u : PlayOneTask) :
    AnswerSigned url isURL account xs os s (.playOne u) := by
  have hstored : s.stored (.playOne u) = [] := rfl
  rw [AnswerSigned, hstored, List.append_nil]
  refine ⟨⟨(firebaseId_answer s.playOne u .ok).trans h.signedIn, h.calls, ?_, h.photos, h.objects,
    h.pages⟩, fun t' ht' => ?_,
    fun t' ht' => signed_of_same ht' (List.Subset.refl os) rfl rfl⟩
  · intro f document hdocument n
    rcases get_playOneFinders_answerOk s.playOne u f hdocument with hbefore | rfl
    · exact h.cards f document hbefore n
    · exact Or.inl (decodePlayerN_create n)
  · obtain ⟨v, -, rfl⟩ := List.mem_map.1 ht'
    trivial

/-- A photo is stored, an object of its call. -/
theorem answer_putData (h : AllSigned url account xs os s) {call : SaveImage} (hcall : call ∈ xs) :
    AnswerSigned url isURL account xs os s (.putData call) := by
  have hstored : s.stored (.putData call) = [⟨call, s.uploads⟩] := rfl
  rw [AnswerSigned, hstored]
  have hos : os ⊆ os ++ [⟨call, s.uploads⟩] := List.subset_append_left _ _
  refine ⟨⟨h.signedIn, h.calls, fun f document hdocument n => ?_, fun path object hobject => ?_,
    fun object hobject => ?_, fun d => ?_⟩, fun t' ht' => ?_,
    fun t' ht' => signed_of_same ht' hos rfl rfl⟩
  · exact (h.cards f document hdocument n).mono (List.Subset.refl xs) hos
  · have hget : (s.storage.set call.savePath ⟨call, s.uploads⟩).get path = some object := hobject
    rw [Collection.get_set] at hget
    split at hget
    · rename_i hpath
      obtain rfl := Option.some.inj hget
      exact ⟨List.mem_append_right os List.mem_cons_self, hpath⟩
    · exact (h.photos path object hget).imp_left (hos ·)
  · rcases List.mem_append.1 hobject with hobject | hobject
    · exact h.objects object hobject
    · obtain rfl := List.mem_singleton.1 hobject
      exact hcall
  · exact (h.pages d).mono
      (fun i vc hp => ⟨hp.1, hp.2.1, hp.2.2.mono (List.Subset.refl xs) hos⟩) fun _ _ hq => hq
  · obtain rfl := List.mem_singleton.1 ht'
    exact hcall

/-- Its address is asked for, and is one of the place of the call. -/
theorem answer_downloadURL (h : AllSigned url account xs os s) {call : SaveImage}
    (hcall : call ∈ xs) : AnswerSigned url isURL account xs os s (.downloadURL call) := by
  have hstored : s.stored (.downloadURL call) = [] := rfl
  rw [AnswerSigned, hstored, List.append_nil]
  simp only [cardAnswerOk]
  cases hget : s.storage.get call.savePath with
  | none => exact ⟨h, fun _ ht => absurd ht List.not_mem_nil, fun t' ht' => ht'⟩
  | some object =>
    refine ⟨h, fun t' ht' => ?_, fun t' ht' => ht'⟩
    obtain rfl := List.mem_singleton.1 ht'
    obtain ⟨hobject, hpath⟩ := h.photos _ object hget
    exact ⟨hcall, object, hobject, hpath.symm, rfl⟩

/-- **The card is written**, with the name and the address of one call. -/
theorem answer_updateData (h : AllSigned url account xs os s) {call : SaveImage}
    {urlString : String} (hcall : call ∈ xs)
    (hurl : StoredAt url os call.finder call.playerN urlString) :
    AnswerSigned url isURL account xs os s (.updateData call urlString) := by
  have hstored : s.stored (.updateData call urlString) = [] := rfl
  rw [AnswerSigned, hstored, List.append_nil]
  simp only [cardAnswerOk]
  cases hget : s.playOne.playOneFinders.get call.finder with
  | none => exact ⟨h, fun _ ht => absurd ht List.not_mem_nil, fun t' ht' => ht'⟩
  | some document =>
    have hwritten : AllSigned url account xs os { s with
        playOne.playOneFinders := s.playOne.playOneFinders.modify call.finder
          (·.updateData [(call.playerN, PlayerN.value ⟨call.playerName, urlString⟩)]) } := by
      refine ⟨h.signedIn, h.calls, fun f document' hdocument' n => ?_, h.photos, h.objects,
        h.pages⟩
      have hget' := hdocument'
      rw [Collection.get_modify] at hget'
      split at hget'
      · rename_i hf
        subst hf
        rw [hget, Option.map_some] at hget'
        obtain rfl := Option.some.inj hget'
        rw [decodePlayerN_updateData]
        split
        · rename_i hn
          subst hn
          exact Or.inr ⟨call, hcall, rfl, rfl, rfl, hurl⟩
        · exact h.cards _ document hget n
      · exact h.cards f document' hget' n
    dsimp only
    split
    · obtain ⟨hpop, htasks, hkept⟩ := hwritten.popViewController call.device
      exact ⟨hpop, htasks, fun t' ht' =>
        hkept t' (signed_of_same ht' (List.Subset.refl os) rfl rfl)⟩
    · exact ⟨hwritten, fun _ ht => absurd ht List.not_mem_nil,
        fun t' ht' => signed_of_same ht' (List.Subset.refl os) rfl rfl⟩

/-- A card is read, for the page of its finder. -/
theorem answer_getPlayOneFinderData (hempty : isURL "" = false)
    (h : AllSigned url account xs os s) {device number : ℕ} {finder : String}
    (hpage : ∀ vc, .finder number vc ∈ s.navigation device → vc.finderInfo.firebaseId = finder) :
    AnswerSigned url isURL account xs os s (.getPlayOneFinderData device number finder) := by
  have hstored : s.stored (.getPlayOneFinderData device number finder) = [] := rfl
  rw [AnswerSigned, hstored, List.append_nil]
  simp only [cardAnswerOk]
  cases hget : s.playOne.playOneFinders.get finder with
  | none => exact ⟨h, fun _ ht => absurd ht List.not_mem_nil, fun t' ht' => ht'⟩
  | some document =>
    have hcards : ∀ vc : PlayOneFinderPage, vc.finderInfo.firebaseId = finder →
        ∀ n, SignedCard url xs os vc.finderInfo.firebaseId n (decodePlayerN document n) :=
      fun vc hvc n => hvc ▸ h.cards finder document hget n
    obtain ⟨hsigned, htasks⟩ := h.setNavigation device
      ((s.navigation device).map (CardScreen.didget isURL number (fivePlayersData document)))
      (le_refl s.made) (fun i vc hvc => Or.inr (mem_didget hvc))
      (pagesSigned_didget (h.pages device) fun vc hvc hp =>
        hp.didget hempty (hcards vc (hpage vc hvc)))
    exact ⟨hsigned, fun _ ht => absurd ht List.not_mem_nil, htasks⟩

/-- **An answer** keeps everything signed. -/
theorem answer (hempty : isURL "" = false) (h : AllSigned url account xs os s)
    (ht : t.Signed url xs os s) : AnswerSigned url isURL account xs os s t := by
  cases t with
  | playOne u => exact h.answer_playOne u
  | putData call => exact h.answer_putData ht
  | downloadURL call => exact h.answer_downloadURL ht
  | updateData call urlString => exact h.answer_updateData ht.1 ht.2
  | getPlayOneFinderData device number finder => exact h.answer_getPlayOneFinderData hempty ht.2

end AllSigned

/-! ## Runs -/

section

variable {s₀ : PlayOneApp} {evs : List (Event CardCall Reply)}

/-- **Any events on any device and any answers**, from before any page of a
finder is open. -/
abbrev CardRun (url : String → ℕ → String) (isURL : String → Bool) (s₀ : PlayOneApp)
    (evs : List (Event CardCall Reply)) (c : Config CardApp CardTask) : Prop :=
  (playOneTab url isURL).Run (fun _ _ => True) (Config.start (.start s₀)) evs c

/-- The calls of `savePlayOneImage` in a run. -/
def submissions (url : String → ℕ → String) (isURL : String → Bool) (s₀ : PlayOneApp)
    (evs : List (Event CardCall Reply)) : List SaveImage :=
  (playOneTab url isURL).observed submitted (Config.start (.start s₀)) evs

/-- The objects stored in a run. -/
def objects (url : String → ℕ → String) (isURL : String → Bool) (s₀ : PlayOneApp)
    (evs : List (Event CardCall Reply)) : List StoredImage :=
  (playOneTab url isURL).observed storedImages (Config.start (.start s₀)) evs

/-- Wherever a run leads, everything is signed, in flight too. -/
theorem allSigned_of_run (hempty : isURL "" = false)
    (hfinders : ∀ f, s₀.playOneFinders.get f = none) (hrun : CardRun url isURL s₀ evs c) :
    AllSigned url s₀.firebaseId (submissions url isURL s₀ evs) (objects url isURL s₀ evs) c.state ∧
      ∀ t ∈ c.pending,
        t.Signed url (submissions url isURL s₀ evs) (objects url isURL s₀ evs) c.state := by
  induction hrun with
  | nil =>
    refine ⟨⟨rfl, fun x hx => absurd hx List.not_mem_nil, fun f document hd => ?_,
      fun path object ho => ?_, fun object ho => absurd ho List.not_mem_nil, fun device => .nil⟩,
      fun t ht => absurd ht List.not_mem_nil⟩
    · have hget : s₀.playOneFinders.get f = some document := hd
      rw [hfinders f] at hget
      cases hget
    · cases ho
  | @snoc evs c e c' hr _ hs ih =>
    obtain ⟨hsigned, htasks⟩ := ih
    have hxs : submissions url isURL s₀ (evs ++ [e]) =
        submissions url isURL s₀ evs ++ submitted c e := Machine.Run.observed_snoc submitted hr hs
    have hos : objects url isURL s₀ (evs ++ [e]) =
        objects url isURL s₀ evs ++ storedImages c e :=
      Machine.Run.observed_snoc storedImages hr hs
    rw [hxs, hos]
    rcases Machine.step_cases hs with ⟨a, s, ts, rfl, hi, rfl⟩ | ⟨i, r, t, rfl, ht, rfl⟩
    · have hstored : storedImages c (.call a) = [] := rfl
      rw [hstored, List.append_nil]
      obtain ⟨hnext, hnew, hkept⟩ := hsigned.issue hi
      refine ⟨hnext, fun t ht => ?_⟩
      rcases List.mem_append.1 ht with ht | ht
      · exact hkept t (htasks t ht)
      · exact hnew t ht
    · have hsubmitted : submitted c (.answer i r) = [] := rfl
      rw [hsubmitted, List.append_nil]
      cases r with
      | failed =>
        have hstored : storedImages c (.answer i .failed) = [] := rfl
        rw [hstored, List.append_nil]
        refine ⟨hsigned, fun t' ht' => htasks t' ?_⟩
        exact (Machine.mem_eraseIdx_append ht').resolve_right List.not_mem_nil
      | ok =>
        have hstored : storedImages c (.answer i .ok) = c.state.stored t := by
          rw [storedImages, ht]
          rfl
        rw [hstored]
        obtain ⟨hnext, hnew, hkept⟩ :=
          hsigned.answer hempty (htasks t (List.mem_of_getElem? ht))
        refine ⟨hnext, fun t' ht' => ?_⟩
        rcases Machine.mem_eraseIdx_append ht' with ht' | ht'
        · exact hkept t' (htasks t' ht')
        · exact hnew t' ht'

/-- **Whose names and photos they are.** Whatever the devices do and in
whatever order what they ask for is answered or fails: each place of a
card is empty or has the name a device of its finder sent for it, and the
address of an object that was stored for it; each object was sent by a
device of the finder and for the player of its path; and a page shows
nothing else. Each was sent from a camera page on top of its device, with
the photo taken and the name typed there. -/
theorem signed_of_run (hempty : isURL "" = false)
    (hfinders : ∀ f, s₀.playOneFinders.get f = none) (hrun : CardRun url isURL s₀ evs c) :
    (∀ f document, c.state.playOne.playOneFinders.get f = some document →
      ∀ n, SignedCard url (submissions url isURL s₀ evs) (objects url isURL s₀ evs) f n
        (decodePlayerN document n)) ∧
    (∀ object ∈ objects url isURL s₀ evs, object.upload ∈ submissions url isURL s₀ evs) ∧
    (∀ path object, c.state.storage.get path = some object →
      object ∈ objects url isURL s₀ evs ∧ path = object.upload.savePath) ∧
    (∀ device i vc, .finder i vc ∈ c.state.navigation device →
      PageSigned url (submissions url isURL s₀ evs) (objects url isURL s₀ evs) vc) ∧
    ∀ x ∈ submissions url isURL s₀ evs, s₀.firebaseId x.device = some x.finder ∧
      x.playerName ≠ "" ∧ ∃ pre c', pre ++ [.call (.dismissSelf x.device)] <+: evs ∧
        CardRun url isURL s₀ pre c' ∧ c'.state.submission x.device = some x := by
  obtain ⟨hsigned, -⟩ := allSigned_of_run hempty hfinders hrun
  refine ⟨hsigned.cards, hsigned.objects, hsigned.photos, fun device i vc hvc => ?_,
    fun x hx => ?_⟩
  · exact ((hsigned.pages device).of_mem hvc).2.2
  · obtain ⟨haccount, hname⟩ := hsigned.calls x hx
    obtain ⟨pre, e, c', hpre, hr, hsent⟩ := hrun.mem_observed hx
    obtain ⟨rfl, hsubmission⟩ := mem_submitted hsent
    exact ⟨haccount, hname, pre, c', hpre, hr, hsubmission⟩

end

namespace Sample

/-- Addresses, the same for every path. -/
def address (_ : String) : ℕ → String
  | 0 => "https://first"
  | _ => "https://later"

/-- What is no empty text is an address. -/
def isAddress (image : String) : Bool := image != ""

/-- `"u"` lines up at the first court and opens their own page. -/
def openPage : List (Event CardCall Reply) :=
  [.call (.playOne (.viewDidLoad 0)), .answer 0 .ok, .answer 0 .ok,
    .call (.playOne (.lineUp 0 0)), .answer 0 .ok, .answer 0 .ok, .answer 0 .ok, .answer 0 .ok,
    .answer 0 .ok, .answer 0 .ok, .call (.tapAFinder 0 0 0), .answer 0 .ok]

/-- A photo of a player is taken, named and sent. -/
def sendPhoto (playerN : PlayerTitle) (imageData : ImageData) (name : String)
    (answers : List Reply) : List (Event CardCall Reply) :=
  [.call (.inputPlayerInfo 0 playerN), .call (.takePhoto 0 imageData), .call (.editName 0 name),
    .call (.dismissSelf 0)] ++ answers.map (.answer 0)

end Sample

/-- A teammate is on the card of the finder who photographed them. -/
theorem signed_sendPhoto : ∃ c document,
    (playOneTab Sample.address Sample.isAddress).exec (Config.start (.start Sample.twoEmptyCourts))
      (Sample.openPage ++ Sample.sendPhoto .player2 [1] "Ann" [.ok, .ok, .ok, .ok]) = some c ∧
    c.state.playOne.playOneFinders.get "u" = some document ∧
    decodePlayerN document .player2 = ⟨"Ann", "https://first"⟩ ∧
    SignedCard Sample.address (submissions Sample.address Sample.isAddress Sample.twoEmptyCourts
      (Sample.openPage ++ Sample.sendPhoto .player2 [1] "Ann" [.ok, .ok, .ok, .ok]))
      (objects Sample.address Sample.isAddress Sample.twoEmptyCourts
      (Sample.openPage ++ Sample.sendPhoto .player2 [1] "Ann" [.ok, .ok, .ok, .ok])) "u" .player2
      (decodePlayerN document .player2) := by
  have hrun : CardRun Sample.address Sample.isAddress Sample.twoEmptyCourts
      (Sample.openPage ++ Sample.sendPhoto .player2 [1] "Ann" [.ok, .ok, .ok, .ok]) _ :=
    .of_exec ⟨trivial, trivial, trivial, trivial, trivial, trivial, trivial, trivial, trivial,
      trivial, trivial, trivial, trivial, trivial, trivial, trivial, trivial, trivial, trivial,
      trivial, trivial⟩ rfl
  refine ⟨_, _, rfl, rfl, rfl, ?_⟩
  exact (signed_of_run rfl (fun _ => rfl) hrun).1 "u" _ rfl .player2

end Volleyer
