import Volleyer.Common.Codec
import Volleyer.Roster.Sample
import Volleyer.Screen.Received

/-!
# The screen of received requests — whom a cell names

`cellForRowAt` has the sender of its row looked up, and the callback
writes the title of the cell it captured, whatever that cell shows by
then. A cell that is reused may have the lookups of several rows in
flight, and nothing takes back a title when it is drawn again. So a cell
names whoever the last of its lookups found, and its buttons update the
request it was drawn for last.
-/

namespace Volleyer

/-! ## The machine -/

/-- `RequestEnum.sentARequestToYou.rawValue` -/
def sentARequestToYou : String := "寄給你打場邀請"

/-- The screen with the titles of its cells. -/
structure TitledScreen where
  received : Received
  titleLable : ℕ → String := fun _ => "loading"

/-- A task of the managers, or a lookup with the cell its callback
captured. -/
inductive TitledTask
  | received (t : Task)
  | getUserByFirebaseId (cell : ℕ) (id : String)

/-- What `getUserByFirebaseId` completes with, where the read succeeds. -/
def Server.gotUser (s : Server) (id : String) : Option User :=
  (s.users.get id).map (decodeUser id)

/-- The lookup `cellForRowAt` starts. -/
def lookups (screen : RequestsReceivedViewController) : ReceivedCall → List TitledTask
  | .cellForRowAt row k => screen.myRequests[row]?.toList.map fun thisRequest =>
      .getUserByFirebaseId k thisRequest.requestSenderId
  | _ => []

/-- The title for a user. -/
def User.title (gotUser : User) : String := gotUser.id ++ " " ++ sentARequestToYou

namespace TitledScreen

/-- What the callback of a lookup does: an error, and no user, only
print. -/
def gotUser (s : TitledScreen) (k : ℕ) (id : String) : TitledScreen :=
  match s.received.server.gotUser id with
  | none => s
  | some gotUser => { s with titleLable := Function.update s.titleLable k gotUser.title }

def answer (s : TitledScreen) : TitledTask → Reply → TitledScreen × List TitledTask
  | .received t, r =>
      ({ s with received := (Volleyer.received.answer s.received t r).1 },
        (Volleyer.received.answer s.received t r).2.map .received)
  | .getUserByFirebaseId k id, .ok => (s.gotUser k id, [])
  | .getUserByFirebaseId _ _, .failed => (s, [])

end TitledScreen

/-- **The screen with its titles.** -/
def titled : Machine TitledScreen ReceivedCall TitledTask Reply where
  issue s a := (received.issue s.received a).map fun p =>
    ({ s with received := p.1 }, lookups s.received.screen a ++ p.2.map .received)
  answer := TitledScreen.answer

variable {s s' : TitledScreen} {k : ℕ} {id : String} {a : ReceivedCall}
variable {ok : Config TitledScreen TitledTask → Event ReceivedCall Reply → Prop}
variable {evs : List (Event ReceivedCall Reply)} {c : Config TitledScreen TitledTask}

/-! ## Names -/

/-- The name a user goes by. -/
def Server.userName (s : Server) (id : String) : Option String := (s.gotUser id).map User.id

/-- **A cell names the sender** of the request its buttons update, if it
was ever drawn. -/
def TitledScreen.NamesSender (s : TitledScreen) (k : ℕ) : Prop :=
  ∀ request, (s.received.screen.cells k).updateStatus = some request →
    (s.received.server.gotUser request.requestSenderId).map User.title = some (s.titleLable k)

/-- The user an answered lookup of a cell has found. -/
def foundFor (k : ℕ) : TitledScreen × TitledTask × Reply → Option String
  | (s, .getUserByFirebaseId k' id, .ok) =>
      if k' = k ∧ (s.received.server.userName id).isSome then some id else none
  | _ => none

/-- **The users the lookups of a cell have found**, in the order of the
answers. -/
def found (k : ℕ) (c₀ : Config TitledScreen TitledTask) (evs : List (Event ReceivedCall Reply)) :
    List String :=
  (titled.answered c₀ evs).filterMap (foundFor k)

/-- **The lookup answered last is the sender's**: of the users the lookups
of a cell have found, the last goes by the name of the sender of the
request the cell was drawn for last. -/
def LastFoundSender (server : Server) (k : ℕ) (evs : List (Event ReceivedCall Reply))
    (screen : RequestsReceivedViewController) : Prop :=
  ∀ request, (screen.cells k).updateStatus = some request →
    ∃ id, (found k (.start { received := ⟨server, {}⟩ }) evs).getLast? = some id ∧
      server.userName id = server.userName request.requestSenderId

/-- The title for a name. -/
def titleFor (name : String) : String := name ++ " " ++ sentARequestToYou

theorem titleFor_injective : Function.Injective titleFor := by
  intro name name' h
  have hlists := congrArg String.toList h
  simp only [titleFor, String.toList_append, List.append_assoc] at hlists
  exact String.toList_injective (List.append_cancel_right hlists)

theorem titleFor_ne_loading (name : String) : titleFor name ≠ "loading" := by
  intro h
  have hblank : ' ' ∈ (titleFor name).toList := by
    simp [titleFor]
  rw [h] at hblank
  exact absurd hblank (by decide)

theorem map_title_eq (server : Server) (id : String) :
    (server.gotUser id).map User.title = (server.userName id).map titleFor := by
  rw [Server.userName, Option.map_map]
  rfl

/-! ## Runs -/

theorem server_of_issue {r r' : Received} {ts : List Task}
    (h : received.issue r a = some (r', ts)) : r'.server = r.server := by
  cases a with
  | iReceive l =>
    obtain ⟨rfl, -⟩ := Prod.mk.inj (Option.some.inj h)
    rfl
  | cellForRowAt row k =>
    obtain ⟨request, -, heq⟩ := Option.map_eq_some_iff.1 h
    obtain ⟨rfl, -⟩ := Prod.mk.inj heq
    rfl
  | acceptRequest k request | denyRequest k request =>
    obtain ⟨-, htap⟩ := Option.ite_none_right_eq_some.1 h
    obtain ⟨rfl, -⟩ := Prod.mk.inj (Option.some.inj htap)
    rfl

/-- No answer of the managers' changes a name. -/
theorem userName_answer (s : Server) (t : Task) (r : Reply) (id : String) :
    (answer s t r).1.userName id = s.userName id := by
  unfold Server.userName Server.gotUser
  rcases answer_users s t r with h | ⟨u, l, -, h⟩
  · rw [h]
  · rw [h]
    show ((((s.users.modify u _).get id).map _).map _) = _
    rw [Collection.get_modify]
    split
    · next heq =>
      subst heq
      rw [Option.map_map, Option.map_map, Option.map_map]
      refine congrArg (Option.map · (s.users.get id)) (funext fun d => ?_)
      show ((d.updateData _).string .id).getD "no id" = (d.string .id).getD "no id"
      rw [Doc.string_updateData, if_neg (by decide)]
    · rfl

theorem gotUser_received (s : TitledScreen) (k : ℕ) (id : String) :
    (s.gotUser k id).received = s.received := by
  unfold TitledScreen.gotUser
  split <;> rfl

/-- **The names stay** through a run. -/
theorem userName_of_run {c₀ : Config TitledScreen TitledTask} (hrun : titled.Run ok c₀ evs c) :
    c.state.received.server.userName = c₀.state.received.server.userName := by
  refine hrun.invariant
    (I := fun c => c.state.received.server.userName = c₀.state.received.server.userName) rfl
    fun c e c' hc _ hs => ?_
  rcases Machine.step_cases hs with ⟨a, s, ts, rfl, hi, rfl⟩ | ⟨i, r, t, rfl, ht, rfl⟩
  · obtain ⟨⟨p, ts'⟩, hissue, heq⟩ := Option.map_eq_some_iff.1 hi
    obtain ⟨rfl, -⟩ := Prod.mk.inj heq
    rw [← hc]
    exact congrArg Server.userName (server_of_issue hissue)
  · cases t with
    | received t =>
      rw [← hc]
      exact funext fun id => userName_answer _ t r id
    | getUserByFirebaseId k id =>
      cases r with
      | failed => exact hc
      | ok =>
        rw [← hc]
        exact congrArg (fun r : Received => r.server.userName) (gotUser_received c.state k id)

/-- A user that was found has a name. -/
theorem userName_of_found {server : Server}
    (hrun : titled.Run ok (.start { received := ⟨server, {}⟩ }) evs c) :
    ∀ id ∈ found k (.start { received := ⟨server, {}⟩ }) evs, (server.userName id).isSome := by
  intro id hid
  obtain ⟨⟨s, t, r⟩, hx, hfound⟩ := List.mem_filterMap.1 hid
  have hnames := hrun.strengthen fun _ _ hr => userName_of_run hr
  have hs := hnames.forall_answered_ok (P := fun x => x.1.received.server.userName =
    server.userName) (fun hok _ => hok.2) _ hx
  cases t with
  | received t => cases r <;> cases hfound
  | getUserByFirebaseId k' id' =>
    cases r with
    | failed => cases hfound
    | ok =>
      obtain ⟨⟨-, hsome⟩, heq⟩ := Option.ite_none_right_eq_some.1 hfound
      obtain rfl := Option.some.inj heq
      rw [← hs]
      exact hsome

/-- An answered lookup titles its cell, if it finds a user. -/
theorem titleLable_answer (s : TitledScreen) (t : TitledTask) (r : Reply) (k : ℕ) :
    (titled.answer s t r).1.titleLable k = (foundFor k (s, t, r)).elim (s.titleLable k)
      fun id => titleFor ((s.received.server.userName id).getD "") := by
  cases t with
  | received t => cases r <;> rfl
  | getUserByFirebaseId k' id =>
    cases r with
    | failed => rfl
    | ok =>
      show (s.gotUser k' id).titleLable k = _
      unfold TitledScreen.gotUser foundFor Server.userName
      cases hget : s.received.server.gotUser id with
      | none => simp [hget]
      | some gotUser =>
        by_cases hk : k' = k
        · subst hk
          simp [hget, User.title, titleFor]
        · simp [hk, Function.update_of_ne (Ne.symm hk)]

/-- **What a cell is titled**: whom the last of its lookups found. -/
theorem titleLable_of_run {server : Server}
    (hrun : titled.Run ok (.start { received := ⟨server, {}⟩ }) evs c) (k : ℕ) :
    c.state.titleLable k = (found k (.start { received := ⟨server, {}⟩ }) evs).getLast?.elim
      "loading" fun id => titleFor ((server.userName id).getD "") := by
  have hcodec : Codec (id : String → String)
      (fun _ id => titleFor ((server.userName id).getD ""))
      (fun _ id => titleFor ((server.userName id).getD "")) := ⟨fun _ _ => rfl, fun _ _ _ => rfl⟩
  have hnames := hrun.strengthen fun _ _ hr => userName_of_run hr
  obtain ⟨title, htitle, hlast⟩ := hcodec.run (fun s => some (s.titleLable k)) hnames rfl
    (fun {c a s ts} _ hi => by
      obtain ⟨⟨p, ts'⟩, -, heq⟩ := Option.map_eq_some_iff.1 hi
      obtain ⟨rfl, -⟩ := Prod.mk.inj heq
      rfl)
    fun {c i r t title} hok _ htitle => by
      obtain rfl := Option.some.inj htitle
      rw [titleLable_answer, hok.2]
      rfl
  exact (Option.some.inj htitle).trans hlast

/-- **You accept the person you see** exactly where, of the users the
lookups of a visible cell have found, the last is the sender of the
request the cell was drawn for last. -/
theorem namesSender_iff {server : Server}
    (hrun : titled.Run ok (.start { received := ⟨server, {}⟩ }) evs c) (visible : Set ℕ) :
    (∀ k ∈ visible, c.state.NamesSender k) ↔
      ∀ k ∈ visible, LastFoundSender server k evs c.state.received.screen := by
  refine forall₂_congr fun k _ => forall₂_congr fun request _ => ?_
  rw [map_title_eq, userName_of_run hrun, titleLable_of_run hrun k]
  cases hlast : (found k (.start { received := ⟨server, {}⟩ }) evs).getLast? with
  | none =>
    refine iff_of_false (fun h => ?_) (by simp)
    obtain ⟨name, -, hname⟩ := Option.map_eq_some_iff.1 h
    exact titleFor_ne_loading name hname
  | some id =>
    obtain ⟨name, hname⟩ := Option.isSome_iff_exists.1
      (userName_of_found hrun id (List.mem_of_getLast? hlast))
    simp only [Option.elim_some, hname, Option.getD_some, Option.some.injEq, exists_eq_left']
    constructor
    · intro h
      obtain ⟨name', hname', htitle⟩ := Option.map_eq_some_iff.1 h
      obtain rfl := titleFor_injective htitle
      exact hname'.symm
    · intro h
      rw [Config.start_state, ← h, Option.map_some]

namespace Sample

/-- Two users with their names. -/
def namedUsers : Server where
  users := ⟨[("u", Doc.setData [(.id, .string "ann")]), ("v", Doc.setData [(.id, .string "bob")])],
    by simp⟩
  plays := .empty
  requests := .empty
  allocated := []

/-- Two requests are delivered, and one cell is drawn for the one and then
for the other; the lookups are answered in an order. -/
def reuseCell (answers : List ℕ) : List (Event ReceivedCall Reply) :=
  [.call (.iReceive [request "r" "u" "p" 0, request "q" "v" "p" 0]), .call (.cellForRowAt 0 0),
    .call (.cellForRowAt 1 0)] ++ answers.map fun n => .answer n .ok

end Sample

/-- The lookups are answered in the order they were started in. -/
theorem namesSender_reuseCell : ∃ c,
    titled.exec (.start { received := ⟨Sample.namedUsers, {}⟩ }) (Sample.reuseCell [0, 0]) =
      some c ∧ c.pending = [] ∧ ∀ k ∈ ({0} : Set ℕ), c.state.NamesSender k := by
  have hrun : titled.Run (fun _ _ => True) (.start { received := ⟨Sample.namedUsers, {}⟩ })
      (Sample.reuseCell [0, 0]) _ :=
    .of_exec ⟨trivial, trivial, trivial, trivial, trivial, trivial⟩ rfl
  refine ⟨_, rfl, rfl, (namesSender_iff hrun {0}).2 ?_⟩
  rintro k rfl request hrequest
  obtain rfl := Option.some.inj hrequest
  exact ⟨"v", rfl, rfl⟩

/-- **You accept a person you do not see**: answered the other way round,
the lookup of the row the cell showed before titles it last. -/
theorem namesSender_fails : ¬∀ (server : Server) (evs : List (Event ReceivedCall Reply))
    (c : Config TitledScreen TitledTask) (visible : Set ℕ),
    titled.Run (fun _ _ => True) (.start { received := ⟨server, {}⟩ }) evs c →
    c.pending = [] → ∀ k ∈ visible, c.state.NamesSender k := by
  intro h
  have hrun : titled.Run (fun _ _ => True) (.start { received := ⟨Sample.namedUsers, {}⟩ })
      (Sample.reuseCell [1, 0]) _ :=
    .of_exec ⟨trivial, trivial, trivial, trivial, trivial, trivial⟩ rfl
  have hnames := h _ _ _ {0} hrun rfl 0 rfl _ rfl
  exact absurd hnames (by decide)

end Volleyer
