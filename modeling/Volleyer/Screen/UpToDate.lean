import Volleyer.Notify.Once
import Volleyer.Screen.Live

/-!
# The page of sent requests is up to date

A row of the page is replaced when the listener tells of a change, so the
page can be behind: what it shows was stored once, and the change that
made it old is still on its way. It is never behind for good
(`upToDate_of_run`), as long as each listener tells its changes in order,
and a load does not arrive after the news of a change it has not seen. A
second listener of the same account, which a second sign-in leaves, tells
everything again and changes nothing.
-/

namespace Volleyer

variable {s s' : Notify} {c c' : Config LiveSent LiveTask} {ts : List NotifyTask}
variable {a : NotifyCall} {l i : ℕ} {documentID : String} {row : PlayRequest}
variable {d D : Doc PlayRequestTitle} {pending : List LiveTask}

/-! ## What is claimed -/

/-- **A row shows a document**: it is what the listener makes of it. -/
def PlayRequest.ReadOff (row : PlayRequest) (document : Doc PlayRequestTitle) : Prop :=
  ∃ now, decodeModifiedRequest row.id document now = some row

/-- **The page is up to date, or soon will be**: each row shows what is
stored of its request, or a listener is about to tell that. -/
def UpToDate (c : Config LiveSent LiveTask) : Prop :=
  ∀ page vc, c.state.requestSent = some (page, vc) → ∀ row ∈ vc.myRequests, ∀ document,
    c.state.notify.server.requests.get row.id = some document →
    row.ReadOff document ∨ ∃ l, .notify (.sent l .modified row.id document) ∈ c.pending

/-- **In order**: a listener tells its changes one after the other, and none
is lost. Where a load brings requests of the account that it finds, that
account has a listener, and of each of these requests the load knows every
change of which there is no more news to come. Every request has a
sender. -/
def InOrder (c : Config LiveSent LiveTask) : Event LiveCall Reply → Prop
  | .call (.notify (.addRequest _ document)) =>
      ∃ sender, document .requestSenderId = some (.string sender)
  | .call _ => True
  | .answer n r => ∀ t, c.pending[n]? = some t →
      (∀ l, t.listener = some l → r = .ok ∧ ∀ t' ∈ c.pending.take n, t'.listener ≠ some l) ∧
      ∀ page documents, t = .getPlayRequests page documents → ∀ i d, (i, d) ∈ documents →
        isEqualTo .requestSenderId c.state.notify.firebaseId d →
        c.state.notify.firebaseId ∈ c.state.notify.sending ∧
        ∀ D, c.state.notify.server.requests.get i = some D →
          D = d ∨ ∃ l, .notify (.sent l .modified i D) ∈ c.pending

/-! ## Documents of one request -/

/-- **What a request was**: a document of it, with its sender, that differs
from the one that is stored in the status alone. -/
structure Former (s : Notify) (documentID : String) (d : Doc PlayRequestTitle) : Prop where
  added : documentID ∈ s.server.allocated
  sender : ∃ sender, d .requestSenderId = some (.string sender)
  same : ∀ D, s.server.requests.get documentID = some D → ∀ f, f ≠ .status → D f = d f

/-- A listener on the requests of the sender of a document. -/
def Heard (s : Notify) (l : ℕ) (d : Doc PlayRequestTitle) : Prop :=
  ∃ me, s.sending[l]? = some me ∧ isEqualTo .requestSenderId me d

theorem isEqualTo_congr {me : Option String} (h : D .requestSenderId = d .requestSenderId) :
    isEqualTo .requestSenderId me D = isEqualTo .requestSenderId me d := by
  unfold isEqualTo
  rw [h]

theorem Heard.congr (h : Heard s l d) (hD : D .requestSenderId = d .requestSenderId) :
    Heard s l D := by
  obtain ⟨me, hme, hequal⟩ := h
  exact ⟨me, hme, (isEqualTo_congr hD).trans hequal⟩

/-- What one reader makes of every element, another one that agrees with it
does. -/
theorem mapM_of_agree {α β : Type*} {f g : α → Option β} {xs : List α} {ys : List β}
    (hfg : ∀ x y, f x = some y → g x = some y) (h : xs.mapM f = some ys) :
    xs.mapM g = some ys := by
  induction xs generalizing ys with
  | nil => exact h
  | cons x xs ih =>
    simp only [List.mapM_cons, Option.bind_eq_bind, Option.bind_eq_some_iff, Option.pure_def,
      Option.some.injEq] at h ⊢
    obtain ⟨y, hy, rest, hrest, rfl⟩ := h
    exact ⟨y, hfg x y hy, rest, ih hrest, rfl⟩

/-- The two decoders agree where the first one does not trap. -/
theorem readOff_of_decode {now : Date} (h : decodePlayRequest documentID d now = some row) :
    row.ReadOff d := by
  have hid := (decodePlayRequestWith_eq_some h).1
  refine ⟨now, ?_⟩
  rw [hid]
  unfold decodePlayRequest decodePlayRequestWith at h
  unfold decodeModifiedRequest decodePlayRequestWith
  simp only [Option.bind_eq_bind, Option.bind_eq_some_iff, Option.pure_def, Option.some.injEq]
    at h ⊢
  obtain ⟨dicts, hdicts, players, hplayers, rfl⟩ := h
  refine ⟨dicts, hdicts, players, mapM_of_agree (fun player p hp => ?_) hplayers, rfl⟩
  obtain ⟨name, hname, hp⟩ := Option.bind_eq_some_iff.1 hp
  obtain ⟨gender, hgender, hp⟩ := Option.bind_eq_some_iff.1 hp
  rw [hname, hgender]
  exact hp

/-- A document that differs in the status alone is read as well, at any
time. -/
theorem exists_readOff (h : row.ReadOff d) (hsame : ∀ f, f ≠ .status → D f = d f) (now : Date) :
    ∃ row', decodeModifiedRequest row.id D now = some row' := by
  obtain ⟨now₀, hrow⟩ := h
  have hD := decodePlayRequestWith_of_eq hsame hrow
  unfold decodePlayRequestWith at hD
  unfold decodeModifiedRequest decodePlayRequestWith
  simp only [Option.bind_eq_bind, Option.bind_eq_some_iff, Option.pure_def, Option.some.injEq]
    at hD ⊢
  obtain ⟨dicts, hdicts, players, hplayers, -⟩ := hD
  exact ⟨_, dicts, hdicts, players, hplayers, rfl⟩

/-! ## What an event changes -/

/-- **What an event does to the requests**: it keeps every listener and what
is known of every request; it tells a listener nothing but what it stores;
and what it stores anew of a request is told to all of its sender's. -/
structure Change (s s' : Notify) (ts : List NotifyTask) : Prop where
  heard : ∀ {l d}, Heard s l d → Heard s' l d
  former : ∀ {i d}, Former s i d → Former s' i d
  stored : ∀ {i D}, s'.server.requests.get i = some D → Former s' i D
  told : ∀ {l i d}, d ∈ untold l i (ts.map .notify) →
    s'.server.requests.get i = some d ∧ Heard s' l d
  tells : ∀ {i D}, s'.server.requests.get i = some D → i ∈ s.server.allocated →
    s.server.requests.get i = some D ∨
      ∀ {l d}, Former s i d → Heard s l d → D ∈ untold l i (ts.map .notify)

/-- An event that leaves the requests, and tells of no change. -/
theorem Change.of_server (hstored : ∀ i D, s.server.requests.get i = some D → Former s i D)
    (hserver : s'.server = s.server) (hsending : s.sending <+: s'.sending)
    (htold : ∀ l i, untold l i (ts.map .notify) = []) : Change s s' ts where
  heard h := by
    obtain ⟨me, hme, hequal⟩ := h
    obtain ⟨rest, hrest⟩ := hsending
    obtain ⟨hl, -⟩ := List.getElem?_eq_some_iff.1 hme
    exact ⟨me, by rw [← hrest, List.getElem?_append_left hl, hme], hequal⟩
  former h := ⟨hserver ▸ h.added, h.sender, hserver ▸ h.same⟩
  stored {i D} h := by
    rw [hserver] at h
    obtain ⟨hadded, hsender, hsame⟩ := hstored i D h
    exact ⟨hserver ▸ hadded, hsender, hserver ▸ hsame⟩
  told {l i d} h := by
    rw [htold] at h
    cases h
  tells h _ := Or.inl (hserver ▸ h)

/-- Nothing is told of a change but of one. -/
theorem untold_deliver_of_ne {type : DocumentChangeType} (htype : type ≠ .modified) (i : String) :
    untold l i ((s.deliver type documentID d).map .notify) = [] := by
  refine List.eq_nil_iff_forall_not_mem.2 fun d' hd' => htype ?_
  exact (mem_untold_deliver.1 hd').1

/-- What is stored is what it was. -/
theorem Former.of_stored (hadded : documentID ∈ s.server.allocated)
    (hsender : ∃ sender, D .requestSenderId = some (.string sender))
    (hD : s.server.requests.get documentID = some D) : Former s documentID D where
  added := hadded
  sender := hsender
  same D' hD' := by
    rw [Option.some.inj (hD.symm.trans hD')]
    exact fun _ _ => rfl

section

variable (hstored : ∀ i D, s.server.requests.get i = some D → Former s i D)

include hstored

/-- A request is added: it has not been one before. -/
theorem Change.addRequest (hnew : documentID ∉ s.server.allocated)
    (hsender : ∃ sender, d .requestSenderId = some (.string sender)) :
    Change s { s with
        server.requests := s.server.requests.set documentID d
        server.allocated := documentID :: s.server.allocated }
      (s.deliver .added documentID d) := by
  have hget : ∀ {i D}, i ∈ s.server.allocated →
      (s.server.requests.set documentID d).get i = some D →
      s.server.requests.get i = some D := by
    intro i D hi hD
    have hne : i ≠ documentID := fun heq => hnew (heq ▸ hi)
    rwa [Collection.get_set_of_ne _ _ hne] at hD
  have hformer : ∀ {i d'}, Former s i d' → Former { s with
      server.requests := s.server.requests.set documentID d
      server.allocated := documentID :: s.server.allocated } i d' := fun hf =>
    ⟨List.mem_cons_of_mem _ hf.added, hf.sender, fun D hD => hf.same D (hget hf.added hD)⟩
  refine ⟨fun h => h, hformer, fun {i D} hD => ?_, fun {l i d'} hd' => ?_,
    fun hD hi => Or.inl (hget hi hD)⟩
  · have hset : (s.server.requests.set documentID d).get i = some D := hD
    rw [Collection.get_set] at hset
    split at hset
    · rename_i hid
      subst hid
      obtain rfl := Option.some.inj hset
      exact .of_stored List.mem_cons_self hsender hD
    · exact hformer (hstored i D hset)
  · rw [untold_deliver_of_ne (by simp)] at hd'
    cases hd'

/-- A request is deleted. -/
theorem Change.deleteRequest : Change s { s with
      server.requests := s.server.requests.delete documentID }
    (s.deliver .removed documentID d) := by
  have hkept : ∀ {i D}, (s.server.requests.delete documentID).get i = some D →
      s.server.requests.get i = some D := by
    intro i D hD
    rw [Collection.get_delete] at hD
    exact (Option.ite_none_left_eq_some.1 hD).2
  have hformer : ∀ {i d'}, Former s i d' → Former { s with
      server.requests := s.server.requests.delete documentID } i d' := fun hf =>
    ⟨hf.added, hf.sender, fun D hD => hf.same D (hkept hD)⟩
  refine ⟨fun h => h, hformer, fun hD => hformer (hstored _ _ (hkept hD)), fun {l i d'} hd' => ?_,
    fun hD _ => Or.inl (hkept hD)⟩
  rw [untold_deliver_of_ne (by simp)] at hd'
  cases hd'

/-- The status of a request changes, and all its sender's listeners are
told. -/
theorem Change.updateRequest (hd : s.server.requests.get documentID = some d)
    (hsame : ∀ f, f ≠ .status → D f = d f)
    (hserver : s'.server.allocated = s.server.allocated) (hsending : s'.sending = s.sending)
    (hget : ∀ i, s'.server.requests.get i =
      if i = documentID then some D else s.server.requests.get i) :
    Change s s' (s.deliver .modified documentID D) := by
  have hformer : ∀ {i d'}, Former s i d' → Former s' i d' := by
    intro i d' hf
    refine ⟨hserver ▸ hf.added, hf.sender, fun D' hD' => ?_⟩
    rw [hget] at hD'
    split at hD'
    · rename_i hid
      subst hid
      obtain rfl := Option.some.inj hD'
      exact fun f hf' => (hsame f hf').trans (hf.same d hd f hf')
    · exact hf.same D' hD'
  have hheard : ∀ {l d'}, Heard s l d' → Heard s' l d' := fun h => by
    unfold Heard
    rwa [hsending]
  refine ⟨hheard, hformer, fun {i D'} hD' => ?_, fun {l i d'} hd' => ?_, fun {i D'} hD' hi => ?_⟩
  · have hD := hD'
    rw [hget] at hD
    split at hD
    · rename_i hid
      subst hid
      obtain ⟨hadded, ⟨sender, hsender⟩, -⟩ := hstored i d hd
      obtain rfl := Option.some.inj hD
      exact .of_stored (hserver ▸ hadded) ⟨sender, (hsame _ (by simp)).trans hsender⟩ hD'
    · exact hformer (hstored i D' hD)
  · obtain ⟨-, rfl, rfl, hheard'⟩ := mem_untold_deliver.1 hd'
    exact ⟨by rw [hget, if_pos rfl], hheard hheard'⟩
  · rw [hget] at hD'
    split at hD'
    · rename_i hid
      subst hid
      obtain rfl := Option.some.inj hD'
      refine Or.inr fun {l d'} hf hl => mem_untold_deliver.2 ⟨rfl, rfl, rfl, hl.congr ?_⟩
      exact (hsame _ (by simp)).trans (hf.same d hd _ (by simp))
    · exact Or.inl hD'

/-- **What an event does.** -/
theorem notifyIssue_change
    (hsender : ∀ i d, a = .addRequest i d → ∃ sender, d .requestSenderId = some (.string sender))
    (h : notifyIssue s a = some (s', ts)) : Change s s' ts := by
  replace h := notifyEvent_of_issue h
  cases a with
  | viewDidLoad =>
    obtain ⟨rfl, rfl⟩ := Prod.mk.inj (Option.some.inj h)
    refine .of_server hstored rfl (List.prefix_append _ _) fun l i => ?_
    refine List.eq_nil_iff_forall_not_mem.2 fun d hd => ?_
    -- a listener is told of documents that are there, and of no change
    obtain ⟨t, ht, heq⟩ := List.mem_map.1 (mem_untold.1 hd)
    obtain rfl := LiveTask.notify.inj heq
    rcases List.mem_append.1 ht with ht | ht <;> obtain ⟨_, -, heq⟩ := List.mem_map.1 ht <;>
      cases heq
  | logout | saveUserDefault =>
    obtain ⟨rfl, rfl⟩ := Prod.mk.inj (Option.some.inj h)
    exact .of_server hstored rfl (List.prefix_refl _) fun l i => rfl
  | addRequest documentID document =>
    obtain ⟨hnew, heq⟩ := Option.ite_none_left_eq_some.1 h
    obtain ⟨rfl, rfl⟩ := Prod.mk.inj (Option.some.inj heq)
    exact .addRequest hstored hnew (hsender _ _ rfl)
  | updateRequest documentID status =>
    obtain ⟨document, hdocument, heq⟩ := Option.map_eq_some_iff.1 h
    obtain ⟨rfl, rfl⟩ := Prod.mk.inj heq
    refine .updateRequest hstored hdocument (fun f hf => ?_) rfl rfl fun i => ?_
    · exact Doc.updateData_singleton_of_ne _ _ hf
    · show (s.server.requests.modify documentID _).get i = _
      rw [Collection.get_modify, hdocument, Option.map_some]
  | deleteRequest documentID =>
    obtain ⟨document, hdocument, heq⟩ := Option.map_eq_some_iff.1 h
    obtain ⟨rfl, rfl⟩ := Prod.mk.inj heq
    exact .deleteRequest hstored

end

/-! ## The invariant -/

/-- **A row** shows what its request once was, to a listener of its sender;
and what it is now, unless a listener has something to tell. -/
structure RowFollows (s : Notify) (pending : List LiveTask) (row : PlayRequest) : Prop where
  read : ∃ d, Former s row.id d ∧ row.ReadOff d ∧ ∃ l, Heard s l d
  follows : ∀ D, s.server.requests.get row.id = some D →
    row.ReadOff D ∨ ∃ l, untold l row.id pending ≠ []

/-- **What is known wherever a run leads**: what a listener tells last of a
request is what is stored of it. -/
structure Following (c : Config LiveSent LiveTask) : Prop where
  stored : ∀ i D, c.state.notify.server.requests.get i = some D → Former c.state.notify i D
  told : ∀ l i d, d ∈ untold l i c.pending → Former c.state.notify i d ∧ Heard c.state.notify l d
  newest : ∀ l i D, c.state.notify.server.requests.get i = some D →
    ∀ d ∈ (untold l i c.pending).getLast?, d = D
  loads : ∀ page documents, .getPlayRequests page documents ∈ c.pending →
    ∀ i d, (i, d) ∈ documents → Former c.state.notify i d
  rows : ∀ page vc, c.state.requestSent = some (page, vc) → ∀ row ∈ vc.myRequests,
    RowFollows c.state.notify c.pending row
  ended : c.state.notify.ended = true → c.state.requestSent = none

namespace Following

/-- **What is still to be told ends with what is stored.** -/
theorem upToDate (h : Following c) : UpToDate c := by
  intro page vc hpage row hrow D hD
  refine ((h.rows page vc hpage row hrow).follows D hD).imp id fun ⟨l, hne⟩ => ⟨l, ?_⟩
  have hlast := List.getLast?_eq_some_getLast hne
  have heq := h.newest l row.id D hD _ hlast
  rw [← heq]
  exact mem_untold.1 (List.getLast_mem hne)

/-- **Where nothing is told**, and the listeners and the store stay, only the
rows matter. -/
theorem frame (h : Following c) {t : LiveSent} {past : List LiveSent} {pending : List LiveTask}
    (hserver : t.notify.server = c.state.notify.server)
    (hsending : t.notify.sending = c.state.notify.sending)
    (huntold : ∀ l i, untold l i pending = untold l i c.pending)
    (hloads : ∀ page documents, .getPlayRequests page documents ∈ pending →
      .getPlayRequests page documents ∈ c.pending ∨
        documents = c.state.notify.server.requests.entries)
    (hrows : ∀ page vc, t.requestSent = some (page, vc) → ∀ row ∈ vc.myRequests,
      RowFollows c.state.notify c.pending row)
    (hended : t.notify.ended = true → t.requestSent = none) : Following ⟨t, past, pending⟩ := by
  have hformer : ∀ {i d}, Former c.state.notify i d → Former t.notify i d := fun hf =>
    ⟨hserver ▸ hf.added, hf.sender, hserver ▸ hf.same⟩
  have hheard : ∀ {l d}, Heard c.state.notify l d → Heard t.notify l d := fun hl => by
    unfold Heard
    rwa [hsending]
  refine ⟨fun i D hD => hformer (h.stored i D (hserver ▸ hD)), fun l i d hd => ?_,
    fun l i D hD d hd => ?_, fun page documents ht i d hd => ?_, fun page vc hpage row hrow => ?_,
    hended⟩
  · have hmem : d ∈ untold l i c.pending := huntold l i ▸ hd
    exact (h.told l i d hmem).imp hformer hheard
  · have hmem : d ∈ (untold l i c.pending).getLast? := huntold l i ▸ hd
    exact h.newest l i D (hserver ▸ hD) d hmem
  · rcases hloads page documents ht with ht | rfl
    · exact hformer (h.loads page documents ht i d hd)
    · exact hformer (h.stored i d (Collection.get_eq_some_iff.2 hd))
  · obtain ⟨⟨d, hf, hread, l, hl⟩, hfollows⟩ := hrows page vc hpage row hrow
    refine ⟨⟨d, hformer hf, hread, l, hheard hl⟩, fun D hD => ?_⟩
    refine (hfollows D (hserver ▸ hD)).imp id fun ⟨l, hne⟩ => ⟨l, ?_⟩
    show untold l row.id pending ≠ []
    rwa [huntold]

/-- **An event of the requests.** -/
theorem notify (h : Following c) {t : LiveSent} {past : List LiveSent}
    (hchange : Change c.state.notify t.notify ts)
    (hpage : ∀ page vc, t.requestSent = some (page, vc) →
      c.state.requestSent = some (page, vc))
    (hended : t.notify.ended = c.state.notify.ended) :
    Following ⟨t, past, c.pending ++ ts.map .notify⟩ := by
  refine ⟨fun i D hD => hchange.stored hD, fun l i d hd => ?_, fun l i D hD d hd => ?_,
    fun page documents ht i d hd => ?_, fun page vc hvc row hrow => ?_, fun h' => ?_⟩
  · rw [untold_append] at hd
    rcases List.mem_append.1 hd with hd | hd
    · obtain ⟨hf, hl⟩ := h.told l i d hd
      exact ⟨hchange.former hf, hchange.heard hl⟩
    · obtain ⟨hstored, hl⟩ := hchange.told hd
      exact ⟨hchange.stored hstored, hl⟩
  · rw [untold_append] at hd
    by_cases hnil : untold l i (ts.map .notify) = []
    · rw [hnil, List.append_nil] at hd
      obtain ⟨hf, hl⟩ := h.told l i d (List.mem_of_getLast? hd)
      rcases hchange.tells hD hf.added with hsame | htells
      · exact h.newest l i D hsame d hd
      · have hmem := htells hf hl
        rw [hnil] at hmem
        cases hmem
    · rw [List.getLast?_append_of_ne_nil _ hnil] at hd
      exact Option.some.inj ((hchange.told (List.mem_of_getLast? hd)).1.symm.trans hD)
  · rcases List.mem_append.1 ht with ht | ht
    · exact hchange.former (h.loads page documents ht i d hd)
    · obtain ⟨u, -, heq⟩ := List.mem_map.1 ht
      cases heq
  · obtain ⟨⟨d, hf, hread, l, hl⟩, hfollows⟩ := h.rows page vc (hpage page vc hvc) row hrow
    refine ⟨⟨d, hchange.former hf, hread, l, hchange.heard hl⟩, fun D hD => ?_⟩
    rcases hchange.tells hD hf.added with hsame | htells
    · refine (hfollows D hsame).imp id fun ⟨l', hne⟩ => ⟨l', ?_⟩
      rw [untold_append]
      exact List.append_ne_nil_of_left_ne_nil hne _
    · refine Or.inr ⟨l, ?_⟩
      rw [untold_append]
      exact List.append_ne_nil_of_right_ne_nil _ (List.ne_nil_of_mem (htells hf hl))
  · have hnone := h.ended (hended ▸ h')
    cases hrequestSent : t.requestSent with
    | none => rfl
    | some page =>
      rw [hpage _ _ hrequestSent] at hnone
      cases hnone

/-- **A listener tells of a change**, and the rows of the request show it. -/
theorem modified (h : Following c) {n : ℕ} {past : List LiveSent}
    (ht : c.pending[n]? = some (.notify (.sent l .modified documentID d)))
    (hfirst : ∀ t ∈ c.pending.take n, t.listener ≠ some l) :
    Following ⟨c.state.modified documentID d, past, c.pending.eraseIdx n⟩ := by
  have htold := untold_eraseIdx ht hfirst
  have hother : ∀ {l' i}, ¬(l = l' ∧ documentID = i) →
      untold l' i (c.pending.eraseIdx n) = untold l' i c.pending := fun hne =>
    untold_eraseIdx_of_none ht (if_neg hne)
  have hnotify : (c.state.modified documentID d).notify = c.state.notify := by
    unfold LiveSent.modified
    split <;> rfl
  have hmem : ∀ {l' i d'}, d' ∈ untold l' i (c.pending.eraseIdx n) →
      d' ∈ untold l' i c.pending := fun hd' =>
    ((List.eraseIdx_sublist c.pending n).filterMap _).subset hd'
  obtain ⟨hf, hl⟩ := h.told l documentID d (htold ▸ List.mem_cons_self)
  -- what was told last of the request is stored, or there is more to tell
  have hnow : ∀ D, c.state.notify.server.requests.get documentID = some D →
      D = d ∨ ∃ l', untold l' documentID (c.pending.eraseIdx n) ≠ [] := by
    intro D hD
    by_cases hnil : untold l documentID (c.pending.eraseIdx n) = []
    · refine Or.inl (h.newest l documentID D hD d ?_).symm
      rw [htold, hnil]
      rfl
    · exact Or.inr ⟨l, hnil⟩
  have hkept : ∀ {row}, RowFollows c.state.notify c.pending row →
      (row.id = documentID → ∀ D, c.state.notify.server.requests.get documentID = some D →
        D = d → row.ReadOff D) →
      RowFollows c.state.notify (c.pending.eraseIdx n) row := by
    intro row hrow hread
    refine ⟨hrow.read, fun D hD => ?_⟩
    by_cases hid : row.id = documentID
    · rcases hnow D (hid ▸ hD) with heq | ⟨l', hne⟩
      · exact Or.inl (hread hid D (hid ▸ hD) heq)
      · exact Or.inr ⟨l', hid ▸ hne⟩
    · refine (hrow.follows D hD).imp id fun ⟨l', hne⟩ => ⟨l', ?_⟩
      rwa [hother fun hboth => hid hboth.2.symm]
  refine ⟨fun i D hD => ?_, fun l' i d' hd' => ?_, fun l' i D hD d' hd' => ?_,
    fun page documents ht' => ?_, fun page vc hpage row hrow => ?_, fun hended => ?_⟩
  · exact hnotify.symm ▸ h.stored i D (hnotify ▸ hD)
  · exact hnotify.symm ▸ h.told l' i d' (hmem hd')
  · refine h.newest l' i D (hnotify ▸ hD) d' ?_
    by_cases hboth : l = l' ∧ documentID = i
    · obtain ⟨rfl, rfl⟩ := hboth
      rw [htold, List.getLast?_cons]
      exact Option.mem_def.2 (by rw [Option.mem_def.1 hd']; rfl)
    · rw [hother hboth] at hd'
      exact hd'
  · exact hnotify.symm ▸ h.loads page documents (List.mem_of_mem_eraseIdx ht')
  · show RowFollows (c.state.modified documentID d).notify (c.pending.eraseIdx n) row
    rw [hnotify]
    have hmodified : (c.state.modified documentID d).requestSent = some (page, vc) := hpage
    unfold LiveSent.modified at hmodified
    cases hdecode : decodeModifiedRequest documentID d (c.state.clock documentID) with
    | none =>
      rw [hdecode] at hmodified
      have hbefore := h.rows page vc hmodified row hrow
      refine hkept hbefore fun hid D hD heq => ?_
      -- a request with a row has a list of players, and keeps it
      obtain ⟨d₀, hf₀, hread, -⟩ := hbefore.read
      subst hid heq
      obtain ⟨row', hrow'⟩ := exists_readOff hread (hf₀.same D hD) (c.state.clock row.id)
      rw [hdecode] at hrow'
      cases hrow'
    | some aPlayRequest =>
      rw [hdecode] at hmodified
      obtain ⟨⟨page', vc'⟩, hbefore, heq⟩ := Option.map_eq_some_iff.1 hmodified
      obtain ⟨rfl, rfl⟩ := Prod.mk.inj heq
      have hid : aPlayRequest.id = documentID := (decodePlayRequestWith_eq_some hdecode).1
      obtain ⟨old, hold, rfl⟩ := List.mem_map.1 hrow
      split
      · have hread : aPlayRequest.ReadOff d := ⟨_, hid ▸ hdecode⟩
        refine ⟨⟨d, hid ▸ hf, hread, l, hl⟩, fun D hD => ?_⟩
        rw [hid] at hD ⊢
        rcases hnow D hD with rfl | hmore
        · exact Or.inl hread
        · exact Or.inr hmore
      · rename_i hne
        refine hkept (h.rows _ vc' hbefore old hold) fun hold' => ?_
        exact absurd (hold'.trans hid.symm) hne
  · have hnone := h.ended (hnotify ▸ hended)
    rw [LiveSent.modified_of_none hnone]
    exact hnone

/-- **A load arrives.** -/
theorem load (h : Following c) {n page : ℕ} {past : List LiveSent}
    {documents : List (String × Doc PlayRequestTitle)}
    {playRequests : List PlayRequest × List PlayRequest}
    (ht : c.pending[n]? = some (.getPlayRequests page documents))
    (hload : ∀ i d, (i, d) ∈ documents →
      isEqualTo .requestSenderId c.state.notify.firebaseId d →
      c.state.notify.firebaseId ∈ c.state.notify.sending ∧
      ∀ D, c.state.notify.server.requests.get i = some D →
        D = d ∨ ∃ l, .notify (.sent l .modified i D) ∈ c.pending)
    (hget : RequestDataManager.getPlayRequests c.state.notify.firebaseId c.state.clock documents =
      some playRequests) :
    Following ⟨c.state.iSent page playRequests.2, past, c.pending.eraseIdx n⟩ := by
  refine h.frame rfl rfl (fun l i => untold_eraseIdx_of_none ht rfl)
    (fun page documents ht' => Or.inl (List.mem_of_mem_eraseIdx ht'))
    (fun page' vc hpage row hrow => ?_) fun hended => ?_
  swap
  · show c.state.requestSent.map _ = none
    rw [h.ended hended, Option.map_none]
  obtain ⟨⟨j, vc'⟩, hbefore, heq⟩ := Option.map_eq_some_iff.1 hpage
  split at heq
  · obtain ⟨-, rfl⟩ := Prod.mk.inj heq
    rw [RequestSentViewController.myRequests_iSent,
      (getPlayRequests_eq_some_iff.1 hget).2] at hrow
    have hmem := (List.perm_insertionSort RequestDataManager.SentBy _).mem_iff.1 hrow
    obtain ⟨hdecoded, hsent⟩ := List.mem_filter.1 hmem
    obtain ⟨⟨i, d⟩, hd, hdecode⟩ := List.mem_filterMap.1 hdecoded
    dsimp only at hdecode
    obtain ⟨rfl, hsender, -⟩ := decodePlayRequestWith_eq_some hdecode
    have hf := h.loads page documents (List.mem_of_getElem? ht) row.id d hd
    obtain ⟨sender, hsenderId⟩ := hf.sender
    have hme : some sender = c.state.notify.firebaseId := by
      rw [← (of_decide_eq_true hsent).2, hsender, Doc.string, hsenderId]
      rfl
    have hequal : isEqualTo .requestSenderId c.state.notify.firebaseId d := by
      simp only [← hme, isEqualTo, hsenderId, beq_self_eq_true]
    obtain ⟨hsending, hfresh⟩ := hload row.id d hd hequal
    obtain ⟨l, hl⟩ := List.mem_iff_getElem?.1 hsending
    refine ⟨⟨d, hf, readOff_of_decode hdecode, l, _, hl, hequal⟩, fun D hD => ?_⟩
    rcases hfresh D hD with rfl | ⟨l', hl'⟩
    · exact Or.inl (readOff_of_decode hdecode)
    · exact Or.inr ⟨l', List.ne_nil_of_mem (mem_untold.2 hl')⟩
  · obtain ⟨rfl, rfl⟩ := Prod.mk.inj heq
    exact h.rows _ _ hbefore row hrow

/-- A callback that tells of no change is answered. -/
theorem answered (h : Following c) {n : ℕ} {t : LiveTask} {s' : LiveSent} {past : List LiveSent}
    {ts : List LiveTask} (ht : c.pending[n]? = some t) (hnone : ∀ l i, t.tells l i = none)
    (hserver : s'.notify.server = c.state.notify.server)
    (hsending : s'.notify.sending = c.state.notify.sending)
    (hpage : s'.requestSent = c.state.requestSent)
    (hended : s'.notify.ended = c.state.notify.ended)
    (hnew : ∀ t ∈ ts, (∀ l i, t.tells l i = none) ∧ ∀ page documents,
      t = .getPlayRequests page documents → documents = c.state.notify.server.requests.entries) :
    Following ⟨s', past, c.pending.eraseIdx n ++ ts⟩ := by
  refine h.frame hserver hsending (fun l i => ?_) (fun page documents hmem => ?_)
    (fun page vc hvc => h.rows page vc (hpage ▸ hvc)) fun h' => hpage.trans (h.ended (hended ▸ h'))
  · have hnil : untold l i ts = [] := List.filterMap_eq_nil_iff.2 fun t ht => (hnew t ht).1 l i
    rw [untold_append, hnil, List.append_nil]
    exact untold_eraseIdx_of_none ht (hnone l i)
  · rcases Machine.mem_eraseIdx_append hmem with hmem | hmem
    · exact Or.inl hmem
    · exact Or.inr ((hnew _ hmem).2 page documents rfl)

/-- **A callback traps**, or has nothing to run in. -/
theorem trap (h : Following c) {n : ℕ} {t : LiveTask} {past : List LiveSent}
    (ht : c.pending[n]? = some t) (hnone : ∀ l i, t.tells l i = none) :
    Following ⟨c.state.trap, past, c.pending.eraseIdx n⟩ := by
  refine h.frame rfl rfl (fun l i => untold_eraseIdx_of_none ht (hnone l i))
    (fun page documents hmem => Or.inl (List.mem_of_mem_eraseIdx hmem)) (fun page vc hvc => ?_)
    fun _ => rfl
  cases hvc

/-- A callback of the notifications is answered. -/
theorem notified (h : Following c) (past : List LiveSent) {n : ℕ} {u : NotifyTask}
    (ht : c.pending[n]? = some (.notify u)) (hnone : ∀ l i, (LiveTask.notify u).tells l i = none)
    (hrunning : c.state.notify.ended = false) :
    Following ⟨if (notifyAnswer c.state.notify u .ok).1.ended then c.state.trap else
        { c.state with notify := (notifyAnswer c.state.notify u .ok).1 }, past,
      c.pending.eraseIdx n ++ (notifyAnswer c.state.notify u .ok).2.map .notify⟩ := by
  rcases notifyAnswer_cases c.state.notify u .ok with heq | ⟨_, _, _, _, ids, -, heq⟩ |
    ⟨-, heq⟩ | ⟨_, _, _, _, -, -, -, heq⟩
  · rw [heq, if_neg (by simp [hrunning])]
    exact h.answered ht hnone rfl rfl rfl rfl fun t ht => absurd ht List.not_mem_nil
  · rw [heq, if_neg (by simp [hrunning])]
    refine h.answered ht hnone rfl rfl rfl rfl fun t ht => ?_
    obtain ⟨v, hv, rfl⟩ := List.mem_map.1 ht
    obtain ⟨id, -, rfl⟩ := List.mem_map.1 hv
    exact ⟨fun l i => rfl, fun page documents heq => LiveTask.noConfusion heq⟩
  · rw [heq, if_pos rfl, List.map_nil, List.append_nil]
    exact h.trap ht hnone
  · rw [heq, if_neg (by simp [hrunning])]
    exact h.answered ht hnone rfl rfl rfl rfl fun t ht => absurd ht List.not_mem_nil

/-- **An event keeps it.** -/
theorem issue (h : Following c) {b : LiveCall} {s' : LiveSent} {ts : List LiveTask}
    (hok : InOrder c (.call b)) (hi : liveIssue c.state b = some (s', ts)) :
    Following ⟨s', c.seen, c.pending ++ ts⟩ := by
  have hpages : ∀ (t : LiveSent) (page : ℕ), t.notify = c.state.notify →
      (∀ i vc, t.requestSent = some (i, vc) →
        c.state.requestSent = some (i, vc) ∨ vc.myRequests = []) →
      (t.notify.ended = true → t.requestSent = none) →
      Following ⟨t, c.seen, c.pending ++ [.getDocuments page]⟩ ∧
        Following ⟨t, c.seen, c.pending ++ []⟩ := by
    intro t page hnotify hpage hended
    have hrows : ∀ i vc, t.requestSent = some (i, vc) → ∀ row ∈ vc.myRequests,
        RowFollows c.state.notify c.pending row := by
      intro i vc hvc row hrow
      rcases hpage i vc hvc with hbefore | hnil
      · exact h.rows i vc hbefore row hrow
      · rw [hnil] at hrow
        cases hrow
    have hserver : t.notify.server = c.state.notify.server := by rw [hnotify]
    have hsending : t.notify.sending = c.state.notify.sending := by rw [hnotify]
    refine ⟨h.frame hserver hsending (fun l i => ?_) (fun page documents hmem => ?_) hrows hended,
      h.frame hserver hsending (fun l i => ?_) (fun page documents hmem => ?_) hrows hended⟩
    · rw [untold_append]
      exact List.append_nil _
    · rcases List.mem_append.1 hmem with hmem | hmem
      · exact Or.inl hmem
      · cases List.mem_singleton.1 hmem
    · rw [List.append_nil]
    · rw [List.append_nil] at hmem
      exact Or.inl hmem
  cases b with
  | notify a =>
    obtain ⟨⟨n, us⟩, hissue, heq⟩ := Option.map_eq_some_iff.1 hi
    obtain ⟨rfl, rfl⟩ := Prod.mk.inj heq
    refine h.notify (notifyIssue_change h.stored (fun i d ha => ?_) hissue)
      (fun page vc hvc => ?_) (notifyIssue_frame hissue).2
    · subst ha
      exact hok
    · cases a with
      | viewDidLoad => cases hvc
      | logout | saveUserDefault | addRequest | updateRequest | deleteRequest => exact hvc
  | tick clock =>
    obtain ⟨rfl, rfl⟩ := Prod.mk.inj (Option.some.inj hi)
    exact (hpages { c.state with clock := clock } 0 rfl (fun i vc hvc => Or.inl hvc) h.ended).2
  | pushToRequestsSend =>
    obtain ⟨⟨-, hrunning⟩, heq⟩ := Option.ite_none_right_eq_some.1 hi
    obtain ⟨rfl, rfl⟩ := Prod.mk.inj (Option.some.inj heq)
    refine (hpages { c.state with
      requestSent := some (c.state.opened, {})
      opened := c.state.opened + 1 } _ rfl (fun i vc hvc => Or.inr ?_) fun hended => ?_).1
    · obtain ⟨-, rfl⟩ := Prod.mk.inj (Option.some.inj hvc)
      rfl
    · cases hrunning.symm.trans hended
  | pullToRefresh =>
    obtain ⟨page, -, heq⟩ := Option.map_eq_some_iff.1 hi
    obtain ⟨rfl, rfl⟩ := Prod.mk.inj heq
    exact (hpages _ _ rfl (fun i vc hvc => Or.inl hvc) h.ended).1
  | back =>
    obtain ⟨rfl, rfl⟩ := Prod.mk.inj (Option.some.inj hi)
    refine (hpages { c.state with requestSent := none } 0 rfl (fun i vc hvc => ?_) fun _ => rfl).2
    cases hvc

/-- **An answer keeps it.** -/
theorem answer (h : Following c) {n : ℕ} {r : Reply} {t : LiveTask}
    (hok : InOrder c (.answer n r)) (ht : c.pending[n]? = some t) :
    Following ⟨(liveAnswer c.state t r).1, c.seen,
      c.pending.eraseIdx n ++ (liveAnswer c.state t r).2⟩ := by
  obtain ⟨hlistener, hload⟩ := hok t ht
  have hstays : (∀ l i, t.tells l i = none) →
      Following ⟨c.state, c.seen, c.pending.eraseIdx n ++ []⟩ := fun hnone =>
    h.answered ht hnone rfl rfl rfl rfl fun t ht => absurd ht List.not_mem_nil
  cases r with
  | failed =>
    refine hstays fun l i => ?_
    cases htells : t.tells l i with
    | none => rfl
    | some d =>
      -- what a listener tells of a change is not lost
      obtain ⟨hr, -⟩ := hlistener l (by rw [tells_eq_some_iff.1 htells]; rfl)
      cases hr
  | ok =>
    have hmodified : ∀ l documentID d, t = .notify (.sent l .modified documentID d) →
        Following ⟨c.state.modified documentID d, c.seen, c.pending.eraseIdx n ++ []⟩ := by
      rintro l documentID d rfl
      rw [List.append_nil]
      exact h.modified ht (hlistener l rfl).2
    by_cases hended : c.state.notify.ended = true
    · simp only [liveAnswer, if_pos hended]
      by_cases hnone : ∀ l i, t.tells l i = none
      · exact hstays hnone
      · -- a page that is gone shows no change
        obtain ⟨l, hl⟩ := not_forall.1 hnone
        obtain ⟨i, hi⟩ := not_forall.1 hl
        obtain ⟨d, hd⟩ := Option.ne_none_iff_exists'.1 hi
        have hshown := hmodified l i d (tells_eq_some_iff.1 hd)
        rwa [LiveSent.modified_of_none (h.ended hended)] at hshown
    simp only [liveAnswer, if_neg hended]
    replace hended := Bool.eq_false_iff.2 hended
    cases t with
    | getDocuments page =>
      refine h.answered ht (fun _ _ => rfl) rfl rfl rfl rfl fun t ht => ?_
      obtain rfl := List.mem_singleton.1 ht
      refine ⟨fun _ _ => rfl, fun page' documents heq => ?_⟩
      exact (LiveTask.getPlayRequests.inj heq).2.symm
    | getPlayRequests page documents =>
      simp only [liveAnswerOk]
      cases hget : RequestDataManager.getPlayRequests c.state.notify.firebaseId c.state.clock
          documents with
      | none =>
        dsimp only
        rw [List.append_nil]
        exact h.trap ht fun _ _ => rfl
      | some playRequests =>
        dsimp only
        rw [List.append_nil]
        exact h.load ht (hload page documents rfl) hget
    | notify u =>
      cases u with
      | sent l type documentID d =>
        cases type with
        | modified => exact hmodified l documentID d rfl
        | added | removed => exact hstays fun _ _ => rfl
      | received | getUserByFirebaseId =>
        have hnotified := h.notified c.seen ht (fun _ _ => rfl) hended
        simp only [notifyAnswer, if_neg (Bool.eq_false_iff.1 hended)] at hnotified
        exact hnotified

end Following

/-! ## Runs -/

/-- **The page of sent requests is up to date**, wherever a run in order
leads: whoever changes the requests, and however often the page is opened
and pulled, each row shows what is stored of its request, unless that is
deleted, or a listener is about to tell it. -/
theorem upToDate_of_run {s₀ : LiveSent} {evs : List (Event LiveCall Reply)}
    (hpage : s₀.requestSent = none)
    (hstored : ∀ i d, s₀.notify.server.requests.get i = some d →
      i ∈ s₀.notify.server.allocated ∧ ∃ sender, d .requestSenderId = some (.string sender))
    (hrun : liveSent.Run InOrder (Config.start s₀) evs c) : UpToDate c := by
  have hstart : Following (Config.start s₀ : Config LiveSent LiveTask) := by
    refine ⟨fun i D hD => ?_, fun l i d hd => absurd hd List.not_mem_nil,
      fun l i D _ d hd => absurd hd (by simp [untold]), fun page documents ht => absurd ht
      List.not_mem_nil, fun page vc hvc => ?_, fun _ => hpage⟩
    · obtain ⟨hadded, hsender⟩ := hstored i D hD
      exact .of_stored hadded hsender hD
    · rw [Config.start_state, hpage] at hvc
      cases hvc
  refine Following.upToDate (hrun.invariant hstart fun c e c' h hok hs => ?_)
  rcases Machine.step_cases hs with ⟨b, s, ts, rfl, hi, rfl⟩ | ⟨n, r, t, rfl, ht, rfl⟩
  · exact h.issue hok hi
  · exact h.answer hok ht

/-- A callback may run first, where it is of no load. -/
theorem inOrder_head {t : LiveTask} {rest : List LiveTask} (h : c.pending = t :: rest)
    (ht : ∀ page documents, t ≠ .getPlayRequests page documents) : InOrder c (.answer 0 .ok) := by
  intro t' ht'
  rw [h] at ht'
  obtain rfl := Option.some.inj ht'
  refine ⟨fun l _ => ⟨rfl, fun u hu => absurd hu (by simp)⟩, fun page documents heq => ?_⟩
  exact absurd heq (ht page documents)

namespace Sample

/-- A request of `"f"` to `"a"`, as `saveRequest` stores it. -/
def sentRequest : Doc PlayRequestTitle :=
  Doc.setData [(.requestPlayerList, .strings []), (.requestSenderId, .string "f"),
    (.requestReceiverId, .string "a"), (.status, .int 0), (.createTime, .timestamp ⟨11, 0⟩)]

/-- Before anybody has signed in. -/
def liveLaunched : LiveSent where
  notify := launched
  requestSent := none
  opened := 0
  clock _ := ⟨0, 0⟩

/-- `"f"` signs in and sends a request, opens the page, and the request is
accepted while a load is on its way. -/
def acceptedBehind : List (Event LiveCall Reply) :=
  [.call (.notify (.saveUserDefault "f")), .call (.notify .viewDidLoad),
    .call (.notify (.addRequest "r" sentRequest)), .answer 0 .ok, .call .pushToRequestsSend,
    .answer 0 .ok, .call (.notify (.updateRequest "r" 99)), .answer 0 .ok]

end Sample

/-- The page is behind, and about to be told. -/
theorem upToDate_acceptedBehind : ∃ c vc,
    liveSent.exec (Config.start Sample.liveLaunched) Sample.acceptedBehind = some c ∧
    c.state.requestSent = some (0, vc) ∧ vc.myRequests.map PlayRequest.status = [0] ∧
    UpToDate c := by
  have hload : ∀ c : Config LiveSent LiveTask, ∀ documents D,
      c.pending = [.getPlayRequests 0 documents, .notify (.sent 0 .modified "r" D)] →
      c.state.notify.firebaseId ∈ c.state.notify.sending →
      (∀ i d, (i, d) ∈ documents → i = "r") →
      c.state.notify.server.requests.get "r" = some D → InOrder c (.answer 0 .ok) := by
    intro c documents D hpending hsending hdocuments hD t ht
    rw [hpending] at ht
    obtain rfl := Option.some.inj ht
    refine ⟨fun l hl => absurd hl (by simp [LiveTask.listener]), fun page documents' heq => ?_⟩
    obtain ⟨-, rfl⟩ := LiveTask.getPlayRequests.inj heq
    intro i d hd _
    refine ⟨hsending, fun D' hD' => ?_⟩
    obtain rfl := hdocuments i d hd
    obtain rfl := Option.some.inj (hD.symm.trans hD')
    exact Or.inr ⟨0, hpending ▸ List.mem_cons_of_mem _ List.mem_cons_self⟩
  have hrun : liveSent.Run InOrder (Config.start Sample.liveLaunched) Sample.acceptedBehind _ :=
    .of_exec ⟨trivial, trivial, ⟨"f", rfl⟩,
      inOrder_head rfl fun _ _ h => LiveTask.noConfusion h, trivial,
      inOrder_head rfl fun _ _ h => LiveTask.noConfusion h, trivial,
      hload _ _ _ rfl List.mem_cons_self
        (fun i d hd => (Prod.mk.inj (List.mem_singleton.1 hd)).1) rfl, trivial⟩ rfl
  refine ⟨_, _, rfl, rfl, rfl, upToDate_of_run rfl (fun i d hd => ?_) hrun⟩
  cases hd

end Volleyer
