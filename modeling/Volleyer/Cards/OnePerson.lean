import Volleyer.Cards.Signed

/-!
# Cards — a name and its photo

A photo is stored first and named two requests later, so calls for the
same place of a card can overtake one another, and one that fails on the
way has stored its photo already. What a place says is the name of the
call that was named last since the card was made; the photo under its
path is that of the call that was stored last. The two are of one call,
and the address is that of the photo, exactly when the call stored last
is the one named last (`card_of_run`).
-/

namespace Volleyer

variable {url : String → ℕ → String} {isURL : String → Bool}
variable {s : CardApp} {f : String} {n : PlayerTitle} {x y : SaveImage}
variable {k : ℕ} {c : Config CardApp CardTask}

/-! ## What a run stored and named -/

/-- The call an answer stores the photo of. -/
def uploadOf : CardApp × CardTask × Reply → Option SaveImage
  | (_, .putData call, .ok) => some call
  | _ => none

/-- Whether a call is for a place of a card. -/
def SaveImage.For (f : String) (n : PlayerTitle) (x : SaveImage) : Prop :=
  x.finder = f ∧ x.playerN = n

instance (f : String) (n : PlayerTitle) (x : SaveImage) : Decidable (x.For f n) :=
  inferInstanceAs (Decidable (_ ∧ _))

/-- **The call whose photo was stored last** for a place. -/
def lastUpload (f : String) (n : PlayerTitle) (answered : List (CardApp × CardTask × Reply)) :
    Option SaveImage :=
  ((answered.filterMap uploadOf).filter fun x => x.For f n).getLast?

/-- What an answer makes of the call named last: another is named, if the
card is there, or the card is made anew. -/
def nameOf (f : String) (n : PlayerTitle) (last : Option SaveImage) :
    CardApp × CardTask × Reply → Option SaveImage
  | (s, .updateData call _, .ok) =>
      if call.For f n ∧ (s.playOne.playOneFinders.get f).isSome then some call else last
  | (_, .playOne (.createPlayOneFinder finder), .ok) => if finder = f then none else last
  | _ => last

/-- **The call whose name was written last** to a place since its card was
made. -/
def lastName (f : String) (n : PlayerTitle) (answered : List (CardApp × CardTask × Reply)) :
    Option SaveImage :=
  answered.foldl (nameOf f n) none

/-! ## Paths -/

/-- **Each place has a path of its own.** -/
theorem savePath_injective {f' : String} {n' : PlayerTitle} (h : savePath f n = savePath f' n') :
    f = f' ∧ n = n' := by
  have hkeys : ∀ m : PlayerTitle, m.rawValue.toList.length = 7 := by
    intro m
    cases m <;> rfl
  have htoList : ∀ a b c d e : String, (a ++ b ++ c ++ d ++ e).toList =
      a.toList ++ (b.toList ++ (c.toList ++ (d.toList ++ e.toList))) := by
    intro a b c d e
    simp only [String.toList_append, List.append_assoc]
  have hlists := (htoList "playOneImages/" f " " n.rawValue ".png").symm.trans
    ((congrArg String.toList h).trans (htoList "playOneImages/" f' " " n'.rawValue ".png"))
  -- the folder before them and the ending after them are the same
  have hmiddle := List.append_cancel_left hlists
  rw [← List.append_assoc, ← List.append_assoc, ← List.append_assoc, ← List.append_assoc] at hmiddle
  obtain ⟨hfront, hback⟩ := List.append_inj' (List.append_cancel_right hmiddle)
    (by rw [hkeys, hkeys])
  exact ⟨String.toList_injective (List.append_cancel_right hfront),
    PlayerTitle.rawValue_injective (String.toList_injective hback)⟩

/-! ## The threads of the calls -/

/-- An event starts one call at most. -/
theorem sent_nodup (s : CardApp) (a : CardCall) : (s.sent a).Nodup := by
  cases a with
  | dismissSelf device =>
    show (s.submission device).toList.Nodup
    cases s.submission device with
    | none => exact List.nodup_nil
    | some x => exact List.nodup_singleton x
  | _ => exact List.nodup_nil

/-- **The address of a call's own photo**, where it is still stored. -/
def Addressed (s : CardApp) (x : SaveImage) (k : ℕ) : Prop :=
  ∀ object, s.storage.get x.savePath = some object → object.upload = x → object.number = k

/-- **The calls in flight.** Each stores its photo once, with its first
request; the address it goes on with is that of its own photo, if that is
the one stored. `U` are the calls whose photos were stored. -/
structure Threads (url : String → ℕ → String) (U : List SaveImage)
    (c : Config CardApp CardTask) : Prop where
  made : ∀ x ∈ U, x.number < c.state.made
  puts : (c.pending.filterMap CardTask.asPut).Nodup
  fresh : ∀ x, .putData x ∈ c.pending → x ∉ U ∧ x.number < c.state.made
  reads : ∀ x, .downloadURL x ∈ c.pending → x ∈ U
  writes : ∀ x u, .updateData x u ∈ c.pending → x ∈ U ∧
    ∃ k, u = url x.savePath k ∧ Addressed c.state x k

/-- **What a place holds**: nothing before it is named, and the name and the
address of the call named last. -/
def Place (url : String → ℕ → String) (U : List SaveImage) (s : CardApp) (f : String)
    (n : PlayerTitle) (last : Option SaveImage) : Prop :=
  ∀ document, s.playOne.playOneFinders.get f = some document →
    (last = none → decodePlayerN document n = ⟨"", ""⟩) ∧
    ∀ x, last = some x → x.For f n ∧ x ∈ U ∧
      ∃ k, decodePlayerN document n = ⟨x.playerName, url x.savePath k⟩ ∧ Addressed s x k

/-- A photo of another call takes no address away. -/
theorem Addressed.set (h : Addressed s x k) (hne : x ≠ y) (m : ℕ) :
    Addressed { s with storage := s.storage.set y.savePath ⟨y, m⟩, uploads := s.uploads + 1 } x
      k := by
  intro object hobject hupload
  have hget : (s.storage.set y.savePath ⟨y, m⟩).get x.savePath = some object := hobject
  rw [Collection.get_set] at hget
  split at hget
  · obtain rfl := Option.some.inj hget
    exact absurd hupload.symm hne
  · exact h object hget hupload

/-- A call puts its photo away and goes on, each with a task of its own. -/
theorem CardTask.asPut_of_thread {t : CardTask} (h : t.thread = none) : t.asPut = none := by
  cases t with
  | putData call => cases h
  | _ => rfl

namespace Threads

variable {U : List SaveImage} {s' : CardApp} {ts : List CardTask} {a : CardCall}

/-- With fewer requests in flight less is claimed. -/
theorem sublist (h : Threads url U c) {past : List CardApp} {pending : List CardTask}
    (hsub : pending.Sublist c.pending) : Threads url U ⟨c.state, past, pending⟩ where
  made := h.made
  puts := h.puts.sublist (hsub.filterMap CardTask.asPut)
  fresh x hx := h.fresh x (hsub.subset hx)
  reads x hx := h.reads x (hsub.subset hx)
  writes x u hx := h.writes x u (hsub.subset hx)

/-- **An event** starts a call with a number of its own, or none. -/
theorem issue (h : Threads url U c) (hi : cardIssue c.state a = some (s', ts)) :
    Threads url U ⟨s', c.seen, c.pending ++ ts⟩ := by
  obtain ⟨hstorage, -, hmade, hsent, rest, rfl, hrest⟩ := cardIssue_stores hi
  have hnew : ∀ {t : CardTask} {x : SaveImage},
      t ∈ c.pending ++ ((c.state.sent a).map .putData ++ rest) → t.thread = some x →
      t ∈ c.pending ∨ x ∈ c.state.sent a ∧ t = .putData x := by
    intro t x ht hthread
    rcases List.mem_append.1 ht with ht | ht
    · exact Or.inl ht
    · rcases List.mem_append.1 ht with ht | ht
      · obtain ⟨y, hy, rfl⟩ := List.mem_map.1 ht
        obtain rfl := Option.some.inj hthread
        exact Or.inr ⟨hy, rfl⟩
      · rw [hrest t ht] at hthread
        cases hthread
  have hputs : (c.pending ++
      ((c.state.sent a).map CardTask.putData ++ rest)).filterMap CardTask.asPut =
      c.pending.filterMap CardTask.asPut ++ c.state.sent a := by
    have hnone : rest.filterMap CardTask.asPut = [] :=
      List.filterMap_eq_nil_iff.2 fun t ht => CardTask.asPut_of_thread (hrest t ht)
    have hsome : ((c.state.sent a).map CardTask.putData).filterMap CardTask.asPut =
        c.state.sent a := by
      rw [List.filterMap_map]
      exact List.filterMap_some
    rw [List.filterMap_append, List.filterMap_append, hnone, hsome, List.append_nil]
  refine ⟨fun x hx => lt_of_lt_of_le (h.made x hx) hmade, ?_, fun x hx => ?_, fun x hx => ?_,
    fun x u hx => ?_⟩
  · show (List.filterMap _ _).Nodup
    rw [hputs]
    refine h.puts.append (sent_nodup c.state a) fun x hold hx => ?_
    obtain ⟨t, ht, hput⟩ := List.mem_filterMap.1 hold
    cases t with
    | putData call =>
      obtain rfl := Option.some.inj hput
      have hlt := (h.fresh call ht).2
      have heq := (hsent call hx).1
      omega
    | _ => cases hput
  · rcases hnew hx rfl with hold | ⟨hx, -⟩
    · obtain ⟨hnot, hlt⟩ := h.fresh x hold
      exact ⟨hnot, lt_of_lt_of_le hlt hmade⟩
    · obtain ⟨hnumber, hnext⟩ := hsent x hx
      refine ⟨fun hU => ?_, ?_⟩
      · have hlt := h.made x hU
        omega
      · show x.number < s'.made
        omega
  · rcases hnew hx rfl with hold | ⟨-, heq⟩
    · exact h.reads x hold
    · cases heq
  · rcases hnew hx rfl with hold | ⟨-, heq⟩
    · obtain ⟨hU, k, hu, hat⟩ := h.writes x u hold
      refine ⟨hU, k, hu, fun object hobject => ?_⟩
      have hget : s'.storage.get x.savePath = some object := hobject
      rw [hstorage] at hget
      exact hat object hget
    · cases heq

/-- **An answer** lets its call go on. -/
theorem answer (h : Threads url U c) {i : ℕ} {t : CardTask} (ht : c.pending[i]? = some t) :
    Threads url (U ++ (uploadOf (c.state, t, .ok)).toList)
      ⟨(cardAnswerOk url isURL c.state t).1, c.seen,
        c.pending.eraseIdx i ++ (cardAnswerOk url isURL c.state t).2⟩ := by
  obtain ⟨hmade, hstorage, hnew⟩ := thread_answerOk url isURL c.state t
  have hmem := List.mem_of_getElem? ht
  have hleft : Threads url U ⟨c.state, c.seen, c.pending.eraseIdx i⟩ :=
    h.sublist (List.eraseIdx_sublist c.pending i)
  have hputs : ((c.pending.eraseIdx i ++ (cardAnswerOk url isURL c.state t).2).filterMap
      CardTask.asPut).Nodup := by
    have hnone : (cardAnswerOk url isURL c.state t).2.filterMap CardTask.asPut = [] := by
      refine List.filterMap_eq_nil_iff.2 fun t' ht' => ?_
      rcases hnew t' ht' with hthread | ⟨_, -, rfl⟩ | ⟨_, _, -, -, rfl⟩
      · exact CardTask.asPut_of_thread hthread
      · rfl
      · rfl
    rw [List.filterMap_append, hnone, List.append_nil]
    exact hleft.puts
  by_cases hput : ∃ y, t = .putData y
  · obtain ⟨y, rfl⟩ := hput
    obtain ⟨hyU, hynumber⟩ := h.fresh y hmem
    have hne : ∀ {x : SaveImage}, x ∈ U → x ≠ y := fun hx hxy => hyU (hxy ▸ hx)
    have hmemU : ∀ {x : SaveImage}, x ∈ U ++ [y] ↔ x ∈ U ∨ x = y := by
      intro x
      rw [List.mem_append, List.mem_singleton]
    show Threads url (U ++ [y]) ⟨_, c.seen, c.pending.eraseIdx i ++ [.downloadURL y]⟩
    refine ⟨fun x hx => ?_, hputs, fun x hx => ?_, fun x hx => ?_, fun x u hx => ?_⟩
    · rcases hmemU.1 hx with hx | rfl
      · exact h.made x hx
      · exact hynumber
    · rcases List.mem_append.1 hx with hrest | hx
      · obtain ⟨hxU, hxnumber⟩ := hleft.fresh x hrest
        refine ⟨fun hxs => ?_, hxnumber⟩
        rcases hmemU.1 hxs with hxs | rfl
        · exact hxU hxs
        · -- the first request of a call is in flight once
          have hperm := (Machine.perm_cons_eraseIdx ht).filterMap CardTask.asPut
          have hnodup : (x :: (c.pending.eraseIdx i).filterMap CardTask.asPut).Nodup :=
            hperm.nodup_iff.1 h.puts
          exact (List.nodup_cons.1 hnodup).1 (List.mem_filterMap.2 ⟨.putData x, hrest, rfl⟩)
      · cases List.mem_singleton.1 hx
    · rcases List.mem_append.1 hx with hx | hx
      · exact hmemU.2 (Or.inl (hleft.reads x hx))
      · exact hmemU.2 (Or.inr (CardTask.downloadURL.inj (List.mem_singleton.1 hx)))
    · rcases List.mem_append.1 hx with hx | hx
      · obtain ⟨hxU, k, hu, hat⟩ := hleft.writes x u hx
        exact ⟨hmemU.2 (Or.inl hxU), k, hu, hat.set (hne hxU) _⟩
      · cases List.mem_singleton.1 hx
  · have hU : uploadOf (c.state, t, .ok) = none := by
      cases t with
      | putData y => exact absurd ⟨y, rfl⟩ hput
      | _ => rfl
    have hsame : (cardAnswerOk url isURL c.state t).1.storage = c.state.storage := by
      rw [hstorage]
      cases t with
      | putData y => exact absurd ⟨y, rfl⟩ hput
      | _ => rfl
    have hkept : ∀ {x k}, Addressed c.state x k →
        Addressed (cardAnswerOk url isURL c.state t).1 x k := by
      intro x k hat object hobject
      rw [hsame] at hobject
      exact hat object hobject
    rw [hU, Option.toList_none, List.append_nil]
    refine ⟨fun x hx => hmade ▸ h.made x hx, hputs, fun x hx => ?_, fun x hx => ?_,
      fun x u hx => ?_⟩
    · rcases List.mem_append.1 hx with hx | hx
      · exact hmade ▸ hleft.fresh x hx
      · rcases hnew _ hx with hthread | ⟨_, -, heq⟩ | ⟨_, _, -, -, heq⟩
        · cases hthread
        · cases heq
        · cases heq
    · rcases List.mem_append.1 hx with hx | hx
      · exact hleft.reads x hx
      · rcases hnew _ hx with hthread | ⟨y, rfl, -⟩ | ⟨_, _, -, -, heq⟩
        · cases hthread
        · exact absurd ⟨y, rfl⟩ hput
        · cases heq
    · rcases List.mem_append.1 hx with hx | hx
      · obtain ⟨hxU, k, hu, hat⟩ := hleft.writes x u hx
        exact ⟨hxU, k, hu, hkept hat⟩
      · rcases hnew _ hx with hthread | ⟨_, -, heq⟩ | ⟨y, object, rfl, hobject, heq⟩
        · cases hthread
        · cases heq
        · obtain ⟨rfl, rfl⟩ := CardTask.updateData.inj heq
          refine ⟨h.reads x hmem, object.number, rfl, hkept fun object' hobject' _ => ?_⟩
          rw [hobject] at hobject'
          rw [Option.some.inj hobject']

end Threads

/-! ## What the places hold -/

section

variable {U U' : List SaveImage} {s' : CardApp} {last last' : Option SaveImage}

/-- Where the document and the addresses of a place are kept, the place is. -/
theorem Place.mono (h : Place url U s f n last) (hU : U ⊆ U')
    (hfinders : ∀ document, s'.playOne.playOneFinders.get f = some document →
      ∃ document₀, s.playOne.playOneFinders.get f = some document₀ ∧
        decodePlayerN document n = decodePlayerN document₀ n)
    (hat : ∀ x ∈ U, ∀ k, Addressed s x k → Addressed s' x k) : Place url U' s' f n last := by
  intro document hdocument
  obtain ⟨document₀, hdocument₀, hsame⟩ := hfinders document hdocument
  obtain ⟨hnone, hsome⟩ := h document₀ hdocument₀
  refine ⟨fun hlast => hsame.trans (hnone hlast), fun x hx => ?_⟩
  obtain ⟨hfor, hxU, k, heq, hk⟩ := hsome x hx
  exact ⟨hfor, hU hxU, k, hsame.trans heq, hat x hxU k hk⟩

/-- What leaves every document and every object leaves every place. -/
theorem Place.of_eq (h : Place url U s f n last)
    (hfinders : s'.playOne.playOneFinders = s.playOne.playOneFinders)
    (hstorage : s'.storage = s.storage) : Place url U s' f n last := by
  refine h.mono (List.Subset.refl U) (fun document hdocument => ?_)
    fun x _ k hat object hobject => ?_
  · exact ⟨document, hfinders ▸ hdocument, rfl⟩
  · exact hat object (hstorage ▸ hobject)

/-- **A request of the line-up** leaves a place, or makes its card anew. -/
theorem Place.playOne (h : Place url U s f n last) (t : PlayOneTask) :
    Place url U (cardAnswerOk url isURL s (.playOne t)).1 f n
      (nameOf f n last (s, .playOne t, .ok)) := by
  cases t with
  | createPlayOneFinder finder =>
    by_cases hf : finder = f
    · subst hf
      have hname : nameOf finder n last (s, .playOne (.createPlayOneFinder finder), .ok) = none :=
        if_pos rfl
      rw [hname]
      intro document hdocument
      have hget : (s.playOne.playOneFinders.set finder _).get finder = some document := hdocument
      rw [Collection.get_set_self] at hget
      obtain rfl := Option.some.inj hget
      refine ⟨fun _ => decodePlayerN_create n, fun x hx => ?_⟩
      cases hx
    · have hname : nameOf f n last (s, .playOne (.createPlayOneFinder finder), .ok) = last :=
        if_neg hf
      rw [hname]
      refine h.mono (List.Subset.refl U) (fun document hdocument => ?_) fun x _ k hat => hat
      have hget : (s.playOne.playOneFinders.set finder _).get f = some document := hdocument
      rw [Collection.get_set_of_ne _ _ (Ne.symm hf)] at hget
      exact ⟨document, hget, rfl⟩
  | deletaPlayOnefinder finder =>
    refine h.mono (List.Subset.refl U) (fun document hdocument => ?_) fun x _ k hat => hat
    have hget : (s.playOne.playOneFinders.delete finder).get f = some document := hdocument
    rw [Collection.get_delete] at hget
    exact ⟨document, (Option.ite_none_left_eq_some.1 hget).2, rfl⟩
  | edit | listenPlayOne | getPlayOneCourts => exact h.of_eq rfl rfl

/-- **A name is written** to its place, where there is a card. -/
theorem Place.updateData (h : Place url U s f n last) (hy : y ∈ U) (hat : Addressed s y k) :
    Place url U (cardAnswerOk url isURL s (.updateData y (url y.savePath k))).1 f n
      (nameOf f n last (s, .updateData y (url y.savePath k), .ok)) := by
  cases hget : s.playOne.playOneFinders.get y.finder with
  | none =>
    have hname : nameOf f n last (s, .updateData y (url y.savePath k), .ok) = last := by
      refine if_neg fun hfor => ?_
      obtain ⟨⟨rfl, -⟩, hsome⟩ := hfor
      rw [hget] at hsome
      cases hsome
    rw [hname]
    refine h.of_eq ?_ ?_ <;> simp only [cardAnswerOk, hget]
  | some document₀ =>
    have hfinders : (cardAnswerOk url isURL s
        (.updateData y (url y.savePath k))).1.playOne.playOneFinders =
          s.playOne.playOneFinders.modify y.finder
            (·.updateData [(y.playerN, PlayerN.value ⟨y.playerName, url y.savePath k⟩)]) := by
      simp only [cardAnswerOk, hget]
      split <;> rfl
    have hstorage : (cardAnswerOk url isURL s (.updateData y (url y.savePath k))).1.storage =
        s.storage := by
      simp only [cardAnswerOk, hget]
      split <;> rfl
    by_cases hfor : y.For f n
    · obtain ⟨rfl, rfl⟩ := hfor
      have hname : nameOf y.finder y.playerN last (s, .updateData y (url y.savePath k), .ok) =
          some y := if_pos ⟨⟨rfl, rfl⟩, by rw [hget]; rfl⟩
      rw [hname]
      intro document hdocument
      rw [hfinders, Collection.get_modify_self, hget, Option.map_some] at hdocument
      obtain rfl := Option.some.inj hdocument
      refine ⟨fun hnone => ?_, fun x hx => ?_⟩
      · cases hnone
      · obtain rfl := Option.some.inj hx
        refine ⟨⟨rfl, rfl⟩, hy, k, ?_, fun object hobject => hat object (hstorage ▸ hobject)⟩
        rw [decodePlayerN_updateData, if_pos rfl]
    · have hname : nameOf f n last (s, .updateData y (url y.savePath k), .ok) = last :=
        if_neg fun hboth => hfor hboth.1
      rw [hname]
      refine h.mono (List.Subset.refl U) (fun document hdocument => ?_)
        fun x _ k hat object hobject => hat object (hstorage ▸ hobject)
      rw [hfinders, Collection.get_modify] at hdocument
      split at hdocument
      · rename_i hf
        subst hf
        rw [hget, Option.map_some] at hdocument
        obtain rfl := Option.some.inj hdocument
        refine ⟨document₀, hget, ?_⟩
        rw [decodePlayerN_updateData, if_neg fun hn => hfor ⟨rfl, hn.symm⟩]
      · exact ⟨document, hdocument, rfl⟩

/-- **An answer** leaves in a place what the call named last gave. -/
theorem Place.answer (h : Place url U c.state f n last) (hthreads : Threads url U c)
    {t : CardTask} (ht : t ∈ c.pending) :
    Place url (U ++ (uploadOf (c.state, t, .ok)).toList) (cardAnswerOk url isURL c.state t).1 f n
      (nameOf f n last (c.state, t, .ok)) := by
  cases t with
  | playOne u =>
    show Place url (U ++ []) _ f n _
    rw [List.append_nil]
    exact h.playOne u
  | putData y =>
    have hy := (hthreads.fresh y ht).1
    refine h.mono (List.subset_append_left U [y]) (fun document hdocument => ?_)
      fun x hx k hat => ?_
    · exact ⟨document, hdocument, rfl⟩
    · have hne : x ≠ y := fun heq => hy (heq ▸ hx)
      exact hat.set hne _
  | downloadURL y =>
    show Place url (U ++ []) _ f n _
    rw [List.append_nil]
    refine h.of_eq ?_ ?_ <;> simp only [cardAnswerOk] <;> split <;> rfl
  | updateData y u =>
    obtain ⟨hy, k, rfl, hat⟩ := hthreads.writes y u ht
    show Place url (U ++ []) _ f n _
    rw [List.append_nil]
    exact h.updateData hy hat
  | getPlayOneFinderData device number finder =>
    show Place url (U ++ []) _ f n _
    rw [List.append_nil]
    refine h.of_eq ?_ ?_ <;> simp only [cardAnswerOk] <;> split <;> rfl

end

/-! ## What the paths hold -/

/-- **An answer** leaves under a path the object of the call stored last. -/
theorem upload_answer {U : List SaveImage}
    (h : (s.storage.get (savePath f n)).map StoredImage.upload =
      (U.filter fun x => x.For f n).getLast?) (t : CardTask) :
    ((cardAnswerOk url isURL s t).1.storage.get (savePath f n)).map StoredImage.upload =
      ((U ++ (uploadOf (s, t, .ok)).toList).filter fun x => x.For f n).getLast? := by
  obtain ⟨-, hstorage, -⟩ := thread_answerOk url isURL s t
  rw [hstorage]
  cases t with
  | putData y =>
    show ((s.storage.set y.savePath ⟨y, s.uploads⟩).get (savePath f n)).map _ =
      ((U ++ [y]).filter _).getLast?
    rw [Collection.get_set, List.filter_append, List.getLast?_append]
    by_cases hfor : y.For f n
    · obtain ⟨rfl, rfl⟩ := hfor
      have hmatch : y.For y.finder y.playerN := ⟨rfl, rfl⟩
      rw [if_pos (show savePath y.finder y.playerN = y.savePath from rfl), List.filter_singleton,
        decide_eq_true hmatch]
      rfl
    · rw [if_neg, List.filter_singleton, decide_eq_false hfor, h]
      · rfl
      · intro hpath
        obtain ⟨hf, hn⟩ := savePath_injective hpath
        exact hfor ⟨hf.symm, hn.symm⟩
  | playOne | downloadURL | updateData | getPlayOneFinderData =>
    show _ = ((U ++ []).filter _).getLast?
    rw [List.append_nil]
    exact h

/-! ## Runs -/

section

variable {s₀ : PlayOneApp} {evs : List (Event CardCall Reply)}

/-- **The answers of a run**, in order. -/
abbrev cardAnswers (url : String → ℕ → String) (isURL : String → Bool) (s₀ : PlayOneApp)
    (evs : List (Event CardCall Reply)) : List (CardApp × CardTask × Reply) :=
  (playOneTab url isURL).answered (Config.start (.start s₀)) evs

/-- A failed request stores nothing and names nobody. -/
theorem failed_names (s : CardApp) (t : CardTask) (f : String) (n : PlayerTitle)
    (last : Option SaveImage) : uploadOf (s, t, .failed) = none ∧
      nameOf f n last (s, t, .failed) = last := by
  cases t with
  | playOne u => cases u <;> exact ⟨rfl, rfl⟩
  | putData | downloadURL | updateData | getPlayOneFinderData => exact ⟨rfl, rfl⟩

/-- Wherever a run leads: the calls in flight, what the places hold, and
what the paths do. -/
theorem places_of_run (hfinders : ∀ f, s₀.playOneFinders.get f = none)
    (hrun : CardRun url isURL s₀ evs c) :
    Threads url ((cardAnswers url isURL s₀ evs).filterMap uploadOf) c ∧ ∀ f n,
      Place url ((cardAnswers url isURL s₀ evs).filterMap uploadOf) c.state f n
        (lastName f n (cardAnswers url isURL s₀ evs)) ∧
      (c.state.storage.get (savePath f n)).map StoredImage.upload =
        lastUpload f n (cardAnswers url isURL s₀ evs) := by
  induction hrun with
  | nil =>
    refine ⟨⟨fun x hx => absurd hx List.not_mem_nil, List.nodup_nil,
      fun x hx => absurd hx List.not_mem_nil, fun x hx => absurd hx List.not_mem_nil,
      fun x u hx => absurd hx List.not_mem_nil⟩, fun f n => ⟨fun document hdocument => ?_, rfl⟩⟩
    have hget : s₀.playOneFinders.get f = some document := hdocument
    rw [hfinders f] at hget
    cases hget
  | @snoc evs c e c' hr _ hs ih =>
    obtain ⟨hthreads, hplaces⟩ := ih
    have hans : cardAnswers url isURL s₀ (evs ++ [e]) =
        cardAnswers url isURL s₀ evs ++ c.answered e := hr.answered_snoc hs
    rw [hans]
    rcases Machine.step_cases hs with ⟨a, s, ts, rfl, hi, rfl⟩ | ⟨i, r, t, rfl, ht, rfl⟩
    · obtain ⟨hstorage, hfinders, -⟩ := cardIssue_stores hi
      rw [show c.answered (.call a) = ([] : List (CardApp × CardTask × Reply)) from rfl,
        List.append_nil]
      exact ⟨hthreads.issue hi, fun f n => ⟨(hplaces f n).1.of_eq hfinders hstorage,
        hstorage ▸ (hplaces f n).2⟩⟩
    · have hlast : c.answered (.answer i r : Event CardCall Reply) = [(c.state, t, r)] := by
        simp only [Config.answered, ht, Option.map_some, Option.toList_some]
      have huploads : (cardAnswers url isURL s₀ evs ++ [(c.state, t, r)]).filterMap uploadOf =
          (cardAnswers url isURL s₀ evs).filterMap uploadOf ++ (uploadOf (c.state, t, r)).toList := by
        rw [List.filterMap_append]
        cases h : uploadOf (c.state, t, r) <;> simp [h]
      rw [hlast]
      simp only [lastUpload, lastName, huploads, List.foldl_append, List.foldl_cons, List.foldl_nil]
      cases r with
      | failed =>
        obtain ⟨hnone, -⟩ := failed_names c.state t "" .player1 none
        rw [hnone, Option.toList_none, List.append_nil]
        refine ⟨?_, fun f n => ?_⟩
        · show Threads url _ ⟨c.state, c.seen, c.pending.eraseIdx i ++ []⟩
          rw [List.append_nil]
          exact hthreads.sublist (List.eraseIdx_sublist c.pending i)
        · rw [(failed_names c.state t f n _).2]
          exact hplaces f n
      | ok =>
        exact ⟨hthreads.answer ht, fun f n => ⟨(hplaces f n).1.answer hthreads
          (List.mem_of_getElem? ht), upload_answer (hplaces f n).2 t⟩⟩

/-- **A place is of one person**: it has the name the call `x` gave, and the
address of the object stored for it, which is the photo `x` gave. -/
def OnePerson (url : String → ℕ → String) (s : CardApp) (f : String) (n : PlayerTitle)
    (x : SaveImage) (document : Doc PlayerTitle) : Prop :=
  ∃ object, s.storage.get (savePath f n) = some object ∧ object.upload = x ∧
    decodePlayerN document n = ⟨x.playerName, url (savePath f n) object.number⟩

/-- **Whose name and whose photo.** However the requests of any calls
overlap, fail or are late: a place of a card is blank until its first call
is named, then it has the name of the call named last; and it is of one
person exactly when the call stored last for it is that call. So a photo
sent again whose address or name does not get through leaves the name of
one person on the photo of another. -/
theorem card_of_run (hfinders : ∀ f, s₀.playOneFinders.get f = none)
    (hrun : CardRun url isURL s₀ evs c) {document : Doc PlayerTitle}
    (hdocument : c.state.playOne.playOneFinders.get f = some document) (n : PlayerTitle) :
    (lastName f n (cardAnswers url isURL s₀ evs) = none → decodePlayerN document n = ⟨"", ""⟩) ∧
    ∀ x, lastName f n (cardAnswers url isURL s₀ evs) = some x →
      (decodePlayerN document n).name = x.playerName ∧
      (OnePerson url c.state f n x document ↔
        lastUpload f n (cardAnswers url isURL s₀ evs) = some x) := by
  obtain ⟨-, hplaces⟩ := places_of_run hfinders hrun
  obtain ⟨hplace, hupload⟩ := hplaces f n
  obtain ⟨hnone, hsome⟩ := hplace document hdocument
  refine ⟨hnone, fun x hx => ?_⟩
  obtain ⟨⟨rfl, rfl⟩, -, k, heq, hat⟩ := hsome x hx
  refine ⟨by rw [heq], fun h => ?_, fun h => ?_⟩
  · obtain ⟨object, hobject, rfl, -⟩ := h
    rw [← hupload, hobject, Option.map_some]
  · obtain ⟨object, hobject, hwhose⟩ := Option.map_eq_some_iff.1 (hupload.trans h)
    refine ⟨object, hobject, hwhose, ?_⟩
    rw [hat object hobject hwhose]
    exact heq

end

namespace Sample

/-- The first photo of a teammate, and another that is stored and not
named. -/
def twoPhotos : List (Event CardCall Reply) :=
  openPage ++ sendPhoto .player2 [1] "Ann" [.ok, .ok, .ok, .ok] ++
    sendPhoto .player2 [2] "Bob" [.ok, .failed]

/-- The call of the first. -/
def ann : SaveImage where
  number := 2
  device := 0
  page := 1
  finder := "u"
  playerN := .player2
  imageData := [1]
  playerName := "Ann"

end Sample

/-- The second photo of a teammate arrives, and its name does not: the card
has the name of the first and the photo of the second. -/
theorem card_twoPhotos : ∃ c document,
    (playOneTab Sample.address Sample.isAddress).exec (Config.start (.start Sample.twoEmptyCourts))
      Sample.twoPhotos = some c ∧
    c.state.playOne.playOneFinders.get "u" = some document ∧
    (decodePlayerN document .player2).name = "Ann" ∧
    ¬ OnePerson Sample.address c.state "u" .player2 Sample.ann document := by
  have hrun : CardRun Sample.address Sample.isAddress Sample.twoEmptyCourts Sample.twoPhotos _ :=
    .of_exec ⟨trivial, trivial, trivial, trivial, trivial, trivial, trivial, trivial, trivial,
      trivial, trivial, trivial, trivial, trivial, trivial, trivial, trivial, trivial, trivial,
      trivial, trivial, trivial, trivial, trivial, trivial, trivial, trivial⟩ rfl
  obtain ⟨hname, hone⟩ := (card_of_run (fun _ => rfl) hrun (f := "u") rfl .player2).2 Sample.ann rfl
  refine ⟨_, _, rfl, rfl, hname, fun h => ?_⟩
  have hphoto := hone.1 h
  revert hphoto
  decide

end Volleyer
