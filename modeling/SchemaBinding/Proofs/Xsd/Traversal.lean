import Mathlib.Data.Set.Insert
import Mathlib.Logic.Relation
import SchemaBinding.Proofs.FileTree
import SchemaBinding.Proofs.Xsd.Additions
import SchemaBinding.Proofs.Xsd.Documents

/-!
# The order of documents

The documents of a set are found by a walk along the references between them, depth first: a
document comes before those that are first come to through its references. What has been visited is
not visited again, by whatever way it is come to. So the walk ends when there are finitely many
files, however references are nested, and it finds each document once.

## Main definitions

* `Walk`: what a depth-first walk visits, in order
* `Location.Holds`: the root of the document at a location
* `Location.Links`: a reference of a document leads from one location to another one
* `Loading.visit`: one step of the walk
* `SchemaDocument.Traversal`: documents are those of a walk, each once

## Main results

* `Walk.nodup`, `Walk.reached`, `Walk.closed`, `Walk.unique`: what a walk visits
* `Loading.alike_loadOr`: references are nested no deeper than there are documents
* `Loading.returns_load_walk`: documents are loaded as a walk visits them
* `loadAll_traversal`: loading documents from a finite file system
-/

namespace SchemaBinding

open Relation (ReflTransGen)

/-! ## Walks -/

section Walk

variable {α κ : Type}

/-- What a depth-first walk visits from some places on, in order. Each place has a key, and no key
is visited that has been seen before. A place comes before those that are visited because it leads
to them. -/
inductive Walk (key : α → κ) (next : α → List α → Prop) : Set κ → List α → List α → Prop
  | nil {seen : Set κ} : Walk key next seen [] []
  | skip {seen : Set κ} {a : α} {as visited : List α} : key a ∈ seen →
      Walk key next seen as visited → Walk key next seen (a :: as) visited
  | visit {seen : Set κ} {a : α} {as bs inner rest : List α} : key a ∉ seen → next a bs →
      Walk key next (insert (key a) seen) bs inner →
      Walk key next (insert (key a) seen ∪ {k | k ∈ inner.map key}) as rest →
      Walk key next seen (a :: as) (a :: (inner ++ rest))

namespace Walk

variable {key : α → κ} {next : α → List α → Prop} {seen : Set κ} {as as' visited visited' : List α}

/-- No key is visited twice, and none that has been seen before. -/
theorem nodup (h : Walk key next seen as visited) :
    (visited.map key).Nodup ∧ ∀ a ∈ visited, key a ∉ seen := by
  induction h with
  | nil => exact ⟨List.nodup_nil, nofun⟩
  | skip _ _ ih => exact ih
  | @visit seen a _ _ inner rest ha _ _ _ ihinner ihrest =>
    obtain ⟨hinner, hinnerNew⟩ := ihinner
    obtain ⟨hrest, hrestNew⟩ := ihrest
    constructor
    · rw [List.map_cons, List.map_append, List.nodup_cons, List.nodup_append]
      refine ⟨?_, hinner, hrest, ?_⟩
      · rw [List.mem_append, not_or]
        constructor
        · intro hmem
          obtain ⟨b, hb, heq⟩ := List.mem_map.mp hmem
          exact hinnerNew b hb (.inl heq)
        · intro hmem
          obtain ⟨b, hb, heq⟩ := List.mem_map.mp hmem
          exact hrestNew b hb (.inl (.inl heq))
      · rintro k hk _ hk' rfl
        obtain ⟨b, hb, rfl⟩ := List.mem_map.mp hk'
        exact hrestNew b hb (.inr hk)
    · intro b hb hseen
      rcases List.mem_cons.mp hb with rfl | hb
      · exact ha hseen
      · rcases List.mem_append.mp hb with hb | hb
        · exact hinnerNew b hb (.inr hseen)
        · exact hrestNew b hb (.inl (.inr hseen))

/-- What is visited is reached from the places at which the walk starts. -/
theorem reached (h : Walk key next seen as visited) {a : α} (ha : a ∈ visited) :
    ∃ start ∈ as, ReflTransGen (fun a b => ∃ bs, next a bs ∧ b ∈ bs) start a := by
  induction h with
  | nil => cases ha
  | skip _ _ ih =>
    obtain ⟨start, hstart, hreach⟩ := ih ha
    exact ⟨start, List.mem_cons_of_mem _ hstart, hreach⟩
  | visit _ hnext _ _ ihinner ihrest =>
    rcases List.mem_cons.mp ha with rfl | ha
    · exact ⟨_, List.mem_cons_self, .refl⟩
    · rcases List.mem_append.mp ha with ha | ha
      · obtain ⟨start, hstart, hreach⟩ := ihinner ha
        exact ⟨_, List.mem_cons_self, .head ⟨_, hnext, hstart⟩ hreach⟩
      · obtain ⟨start, hstart, hreach⟩ := ihrest ha
        exact ⟨start, List.mem_cons_of_mem _ hstart, hreach⟩

/-- The keys of all places at which the walk starts, and of all to which a visited one leads, have
been seen or are visited. -/
theorem closed (h : Walk key next seen as visited) :
    (∀ a ∈ as, key a ∈ seen ∨ key a ∈ visited.map key) ∧
      ∀ a ∈ visited, ∃ bs, next a bs ∧ ∀ b ∈ bs, key b ∈ seen ∨ key b ∈ visited.map key := by
  induction h with
  | nil => exact ⟨nofun, nofun⟩
  | skip hseen _ ih =>
    refine ⟨fun a ha => ?_, ih.2⟩
    rcases List.mem_cons.mp ha with rfl | ha
    · exact .inl hseen
    · exact ih.1 a ha
  | @visit seen a _ bs inner rest _ hnext _ _ ihinner ihrest =>
    -- Whatever is seen before either part of the walk is seen before the whole, or visited in it.
    have hall : ∀ k, (k ∈ insert (key a) seen ∨ k ∈ inner.map key ∨ k ∈ rest.map key) →
        k ∈ seen ∨ k ∈ (a :: (inner ++ rest)).map key := by
      intro k hk
      rw [List.map_cons, List.map_append, List.mem_cons, List.mem_append]
      rcases hk with (rfl | hk) | hk | hk
      · exact .inr (.inl rfl)
      · exact .inl hk
      · exact .inr (.inr (.inl hk))
      · exact .inr (.inr (.inr hk))
    have hinner : ∀ b, key b ∈ insert (key a) seen ∨ key b ∈ inner.map key →
        key b ∈ seen ∨ key b ∈ (a :: (inner ++ rest)).map key :=
      fun b hb => hall _ (hb.imp_right .inl)
    have hrest : ∀ b, key b ∈ insert (key a) seen ∪ {k | k ∈ inner.map key} ∨
        key b ∈ rest.map key → key b ∈ seen ∨ key b ∈ (a :: (inner ++ rest)).map key := by
      rintro b ((hb | hb) | hb)
      · exact hall _ (.inl hb)
      · exact hall _ (.inr (.inl hb))
      · exact hall _ (.inr (.inr hb))
    constructor
    · intro b hb
      rcases List.mem_cons.mp hb with rfl | hb
      · exact .inr List.mem_cons_self
      · exact hrest b (ihrest.1 b hb)
    · intro b hb
      rcases List.mem_cons.mp hb with rfl | hb
      · exact ⟨bs, hnext, fun c hc => hinner c (ihinner.1 c hc)⟩
      · rcases List.mem_append.mp hb with hb | hb
        · obtain ⟨cs, hcs, hclosed⟩ := ihinner.2 b hb
          exact ⟨cs, hcs, fun c hc => hinner c (hclosed c hc)⟩
        · obtain ⟨cs, hcs, hclosed⟩ := ihrest.2 b hb
          exact ⟨cs, hcs, fun c hc => hrest c (hclosed c hc)⟩

/-- A walk from some places on goes on with other places. -/
theorem append (h : Walk key next seen as visited)
    (h' : Walk key next (seen ∪ {k | k ∈ visited.map key}) as' visited') :
    Walk key next seen (as ++ as') (visited ++ visited') := by
  induction h with
  | nil => simpa using h'
  | skip hseen _ ih => exact .skip hseen (ih h')
  | @visit seen a _ _ inner rest ha hnext hinner _ _ ihrest =>
    have hunion : seen ∪ {k | k ∈ (a :: (inner ++ rest)).map key} =
        insert (key a) seen ∪ {k | k ∈ inner.map key} ∪ {k | k ∈ rest.map key} := by
      ext k
      simp only [Set.mem_union, Set.mem_insert_iff, Set.mem_ofPred_eq, List.map_cons, List.mem_cons,
        List.map_append, List.mem_append]
      tauto
    rw [hunion] at h'
    rw [List.cons_append, List.cons_append, List.append_assoc]
    exact .visit ha hnext hinner (ihrest h')

/-- There is one walk only, if each place leads to the same places always. -/
theorem unique (hnext : ∀ a bs bs', next a bs → next a bs' → bs = bs')
    (h : Walk key next seen as visited) (h' : Walk key next seen as visited') :
    visited = visited' := by
  induction h generalizing visited' with
  | nil =>
    cases h'
    rfl
  | skip hseen _ ih =>
    cases h' with
    | skip _ h' => exact ih h'
    | visit hnew => exact absurd hseen hnew
  | visit hnew hbs _ _ ihinner ihrest =>
    cases h' with
    | skip hseen => exact absurd hseen hnew
    | visit _ hbs' hinner' hrest' =>
      cases hnext _ _ _ hbs hbs'
      cases ihinner hinner'
      cases ihrest hrest'
      rfl

end Walk

end Walk

/-! ## Lists -/

section Related

variable {α β κ : Type} {R : α → β → Prop} {as : List α} {bs : List β}

/-- Each element is related to one of the other list. -/
theorem exists_of_forall₂ (h : List.Forall₂ R as bs) {a : α} (ha : a ∈ as) : ∃ b ∈ bs, R a b := by
  induction h with
  | nil => cases ha
  | cons hab _ ih =>
    rcases List.mem_cons.mp ha with rfl | ha
    · exact ⟨_, List.mem_cons_self, hab⟩
    · obtain ⟨b, hb, hR⟩ := ih ha
      exact ⟨b, List.mem_cons_of_mem _ hb, hR⟩

/-- Lists whose elements agree in something have it in the same order. -/
theorem map_eq_map_of_forall₂ {f : α → κ} {g : β → κ}
    (h : List.Forall₂ (fun a b => f a = g b) as bs) : as.map f = bs.map g := by
  rwa [← List.forall₂_eq_eq_eq, List.forall₂_map_left_iff, List.forall₂_map_right_iff]

end Related

/-! ## References -/

namespace Xml.Element

/-- Where a document is that a child of a root includes or imports. -/
def schemaLocation? (c : Element) : Option String :=
  if c.localName = "include" ∨ c.localName = "import" then c.attribute? "schemaLocation" else none

/-- Where the documents are that a document includes and imports, as its root says, in order. -/
def schemaLocations (root : Element) : List String := root.children.filterMap schemaLocation?

end Xml.Element

namespace Location

/-- The root of the document at a location. -/
def Holds (files : FileSystem) (limits : Limits) (location : Location) (root : Xml.Element) :
    Prop :=
  ∃ content document, Source.load files limits location = .ok content ∧
    Xml.Document.parse limits (Text.encode content) = .ok document ∧ document.root = some root

/-- The root of the document at a location, if there is one. -/
def root? (files : FileSystem) (limits : Limits) (location : Location) : Option Xml.Element :=
  ((Source.load files limits location).toOption.bind fun content =>
    (Xml.Document.parse limits (Text.encode content)).toOption).bind (·.root)

theorem holds_of_root? {files : FileSystem} {limits : Limits} {location : Location}
    {root : Xml.Element} (h : location.root? files limits = some root) :
    location.Holds files limits root := by
  obtain ⟨document, hdocument, hroot⟩ := Option.bind_eq_some_iff.mp h
  obtain ⟨content, hcontent, hdocument⟩ := Option.bind_eq_some_iff.mp hdocument
  exact ⟨content, document, eq_ok_of_toOption hcontent, eq_ok_of_toOption hdocument, hroot⟩

/-- Where the references of the document at a location lead to, in order. -/
def Targets (files : FileSystem) (limits : Limits) (location : Location) (targets : List Location) :
    Prop :=
  ∃ root, location.Holds files limits root ∧
    root.schemaLocations.mapM location.resolve = .ok targets

/-- A reference of the document at a location leads to another location. -/
def Links (files : FileSystem) (limits : Limits) (location target : Location) : Prop :=
  ∃ root, location.Holds files limits root ∧
    ∃ reference ∈ root.schemaLocations, location.resolve reference = .ok target

variable {files : FileSystem} {limits : Limits} {location : Location}

theorem Holds.unique {root root' : Xml.Element} (h : location.Holds files limits root)
    (h' : location.Holds files limits root') : root = root' := by
  obtain ⟨content, document, hcontent, hdocument, hroot⟩ := h
  obtain ⟨content', document', hcontent', hdocument', hroot'⟩ := h'
  cases hcontent.symm.trans hcontent'
  cases hdocument.symm.trans hdocument'
  exact Option.some.inj (hroot.symm.trans hroot')

theorem Targets.unique {targets targets' : List Location}
    (h : location.Targets files limits targets) (h' : location.Targets files limits targets') :
    targets = targets' := by
  obtain ⟨root, hroot, htargets⟩ := h
  obtain ⟨root', hroot', htargets'⟩ := h'
  cases hroot.unique hroot'
  exact Except.ok.inj (htargets.symm.trans htargets')

/-- What several references lead to is what each of them leads to. -/
theorem mem_of_mapM_resolve {references : List String} {targets : List Location} {target : Location}
    (h : references.mapM location.resolve = .ok targets) :
    target ∈ targets ↔ ∃ reference ∈ references, location.resolve reference = .ok target := by
  induction references generalizing targets with
  | nil =>
    cases h
    exact ⟨nofun, nofun⟩
  | cons reference references ih =>
    rw [List.mapM_cons] at h
    obtain ⟨first, hfirst, h⟩ := bind_eq_ok_iff.mp h
    obtain ⟨rest, hrest, h⟩ := bind_eq_ok_iff.mp h
    cases h
    rw [List.mem_cons, List.exists_mem_cons_iff, ih hrest, hfirst, Except.ok.injEq, eq_comm]

/-- Where all references can be resolved, each of them can. -/
theorem exists_of_mapM_resolve {references : List String} {targets : List Location}
    (h : references.mapM location.resolve = .ok targets) {reference : String}
    (hreference : reference ∈ references) :
    ∃ target, location.resolve reference = .ok target ∧ target ∈ targets := by
  induction references generalizing targets with
  | nil => cases hreference
  | cons first references ih =>
    rw [List.mapM_cons] at h
    obtain ⟨target, htarget, h⟩ := bind_eq_ok_iff.mp h
    obtain ⟨rest, hrest, h⟩ := bind_eq_ok_iff.mp h
    cases h
    rcases List.mem_cons.mp hreference with rfl | hreference
    · exact ⟨target, htarget, List.mem_cons_self⟩
    · obtain ⟨found, hfound, hmem⟩ := ih hrest hreference
      exact ⟨found, hfound, List.mem_cons_of_mem _ hmem⟩

theorem Targets.links {targets : List Location} (h : location.Targets files limits targets)
    {target : Location} (htarget : target ∈ targets) : location.Links files limits target := by
  obtain ⟨root, hroot, htargets⟩ := h
  exact ⟨root, hroot, (mem_of_mapM_resolve htargets).mp htarget⟩

end Location

namespace Xsd

open Xml (Element)

namespace Loading

/-- The reference that a child makes is where the child says. -/
theorem map_location_referenceOf? (context : Context) (c : Element) :
    (context.referenceOf? c).map (·.location) = c.schemaLocation? := by
  unfold Context.referenceOf? Element.schemaLocation?
  by_cases hinclude : c.localName = "include"
  · rw [if_pos hinclude, if_pos (.inl hinclude), Option.map_map]
    exact Option.map_id'
  · by_cases himport : c.localName = "import"
    · rw [if_neg hinclude, if_pos himport, if_pos (.inr himport), Option.map_map]
      exact Option.map_id'
    · rw [if_neg hinclude, if_neg himport, if_neg (not_or.mpr ⟨hinclude, himport⟩)]
      rfl

/-- The references of a document are where its root says. -/
theorem map_location_referenceList (document : SchemaDocument) :
    document.referenceList.map (·.location) = document.root.schemaLocations := by
  unfold SchemaDocument.referenceList Element.schemaLocations
  rw [List.map_filterMap]
  exact List.filterMap_congr fun c _ => map_location_referenceOf? document.context c

/-- The references of a document are listed in their order, and nothing is loaded for this. -/
theorem returns_references (document : SchemaDocument) {s : Loading} :
    Returns s (references document) fun refs s' =>
      (s'.documents = s.documents ∧ s'.visited = s.visited) ∧
        refs.map (·.location) = document.root.schemaLocations := by
  refine (returns_references_eq document).mono ?_
  rintro _ _ ⟨⟨log, rfl⟩, rfl⟩
  exact ⟨⟨rfl, rfl⟩, map_location_referenceList document⟩

/-! ## Termination -/

/-- Reads the document at a location, unless it has been read, and follows its references. -/
def visit (files : FileSystem) (limits : Limits) (follow : Location → Inclusion → LoadM Unit)
    (location : Location) (inclusion : Inclusion) : LoadM Unit := do
  let key := Source.key files location
  if key ∈ (← get).visited then
    report .trace s!"skipping already loaded schema document {key}"
  else
    modify fun s => { s with visited := key :: s.visited }
    let content ← Source.load files limits location
    let document ← SchemaDocument.ofText limits key inclusion content
    let refs ← references document
    modify fun s => { s with documents := s.documents.push document }
    refs.forM fun reference => do
      let target ← location.resolve reference.location
      follow target reference.inclusion

/-- A document is loaded one level deep, and those that it refers to one level less. -/
theorem load_succ (files : FileSystem) (limits : Limits) (levels : Nat) :
    load files limits (levels + 1) = visit files limits (load files limits levels) :=
  rfl

/-- Loading with a failure of one's choice where references are nested too deep. -/
def loadOr (files : FileSystem) (limits : Limits) (tooDeep : Error) :
    Nat → Location → Inclusion → LoadM Unit
  | 0 => fun _ _ => throw tooDeep
  | levels + 1 => visit files limits (loadOr files limits tooDeep levels)

theorem load_eq_loadOr (files : FileSystem) (limits : Limits) (levels : Nat) :
    load files limits levels = loadOr files limits
      (.limitExceeded ⟨.schemaDepth, limits.schemaDepth + 1, limits.schemaDepth⟩) levels := by
  induction levels with
  | zero => rfl
  | succ levels ih => rw [load_succ, ih, loadOr]

/-- Two steps run alike from all states with `I`. -/
def Alike {α : Type} (I : Loading → Prop) (x y : LoadM α) : Prop :=
  ∀ s, I s → x.run.run s = y.run.run s

section Alike

variable {α β : Type} {I : Loading → Prop}

theorem Alike.rfl {x : LoadM α} : Alike I x x := fun _ _ => Eq.refl _

theorem Alike.mono {J : Loading → Prop} {x y : LoadM α} (h : Alike I x y) (hI : ∀ s, J s → I s) :
    Alike J x y :=
  fun s hs => h s (hI s hs)

/-- Steps that go on alike, from what the first step has brought about. -/
theorem Alike.bind {x y : LoadM α} {f g : α → LoadM β} {J : α → Loading → Prop} (hx : Alike I x y)
    (hJ : ∀ s, I s → Returns s x J) (hf : ∀ a, Alike (J a) (f a) (g a)) :
    Alike I (x >>= f) (y >>= g) := by
  intro s hs
  rw [run_bind_eq, run_bind_eq, ← hx s hs]
  rcases hrun : x.run.run s with ⟨e | a, t⟩
  · rfl
  · exact hf a t ((hJ s hs).of_run hrun)

/-- Loops do alike if each of their steps does. -/
theorem Alike.forM {ι : Type} {f g : ι → LoadM PUnit} (is : List ι) (hf : ∀ i, Alike I (f i) (g i))
    (hkeeps : ∀ i, Keeps I (f i)) : Alike I (is.forM f) (is.forM g) := by
  induction is with
  | nil => exact .rfl
  | cons i is ih =>
    show Alike I (f i >>= fun _ => is.forM f) (g i >>= fun _ => is.forM g)
    exact (hf i).bind (fun s hs => ⟨(hkeeps i s hs).mono fun _ _ ht _ _ => ht⟩) fun _ => ih

end Alike

section Visit

variable {files : FileSystem} {limits : Limits} {location : Location}

/-- Visiting a document goes alike if its references are followed alike. -/
theorem alike_visit {follow follow' : Location → Inclusion → LoadM Unit} (inclusion : Inclusion)
    (s : Loading)
    (hfollow : ∀ content, Source.load files limits location = .ok content →
      Source.key files location ∉ s.visited → ∀ target inclusion,
        Alike (fun t => Source.key files location :: s.visited ⊆ t.visited)
          (follow target inclusion) (follow' target inclusion))
    (hkeeps : ∀ target inclusion,
      Keeps (fun t => Source.key files location :: s.visited ⊆ t.visited)
        (follow target inclusion)) :
    Alike (· = s) (visit files limits follow location inclusion)
      (visit files limits follow' location inclusion) := by
  -- Both runs go through the same states as far as to the references, which are followed alike.
  unfold visit
  refine Alike.bind (J := fun d t => d = s ∧ t = s) .rfl
    (by rintro _ rfl; exact returns_get.mpr ⟨rfl, rfl⟩) fun d => ?_
  by_cases hkey : Source.key files location ∈ d.visited
  · simp only [if_pos hkey]
    exact .rfl
  · simp only [if_neg hkey]
    refine Alike.bind (J := fun _ t => t.visited = Source.key files location :: s.visited ∧ d = s)
      .rfl (by rintro _ ⟨rfl, rfl⟩; exact returns_modify.mpr ⟨rfl, rfl⟩) fun _ => ?_
    refine Alike.bind (J := fun content t => Source.load files limits location = .ok content ∧
      t.visited = Source.key files location :: s.visited ∧ d = s) .rfl
      (fun t ht => returns_liftExcept.mpr fun content hcontent => ⟨hcontent, ht⟩) fun content => ?_
    refine Alike.bind (J := fun _ t => Source.load files limits location = .ok content ∧
      t.visited = Source.key files location :: s.visited ∧ d = s) .rfl
      (fun t ht => returns_liftExcept.mpr fun _ _ => ht) fun document => ?_
    refine Alike.bind (J := fun _ t => Source.load files limits location = .ok content ∧
      t.visited = Source.key files location :: s.visited ∧ d = s) .rfl
      (fun t ht => (returns_references document).mono fun _ _ h =>
        ⟨ht.1, h.1.2.trans ht.2.1, ht.2.2⟩)
      fun refs => ?_
    refine Alike.bind (J := fun _ t => Source.load files limits location = .ok content ∧
      t.visited = Source.key files location :: s.visited ∧ d = s) .rfl
      (fun t ht => returns_modify.mpr ht) fun _ => ?_
    rintro t ⟨hcontent, hvisited, rfl⟩
    refine Alike.forM (I := fun u => Source.key files location :: d.visited ⊆ u.visited) refs
      (fun reference => ?_) (fun reference => ?_) t
      (show _ ⊆ t.visited by rw [hvisited]; exact List.Subset.refl _)
    · exact Alike.bind .rfl (fun u hu => returns_liftExcept.mpr fun _ _ => hu) fun target =>
        hfollow content hcontent hkey target reference.inclusion
    · exact (keeps_liftExcept _).bind fun target => hkeeps target reference.inclusion

/-- What has been visited stays so. -/
theorem keeps_visit {V : List String} {follow : Location → Inclusion → LoadM Unit}
    (hfollow : ∀ target inclusion, Keeps (fun t => V ⊆ t.visited) (follow target inclusion))
    (inclusion : Inclusion) :
    Keeps (fun t => V ⊆ t.visited) (visit files limits follow location inclusion) := by
  refine keeps_get.bind fun d => Keeps.ite (fun _ => keeps_modify fun _ h => h) fun _ => ?_
  refine Keeps.bind (keeps_modify fun (t : Loading) (h : V ⊆ t.visited) =>
    List.subset_cons_of_subset _ h) fun _ => ?_
  refine (keeps_liftExcept _).bind fun content => (keeps_liftExcept _).bind fun document => ?_
  have hreferences : Keeps (fun t => V ⊆ t.visited) (references document) := fun t ht =>
    (ends_references (I := fun t => V ⊆ t.visited) (fun _ _ h => h) document ht).mono
      fun _ _ h => h.1
  refine hreferences.bind fun refs => Keeps.bind
    (keeps_modify fun (t : Loading) (h : V ⊆ t.visited) => h) fun _ => ?_
  exact keeps_forM fun reference _ => (keeps_liftExcept _).bind fun target => hfollow _ _

/-- What has been visited stays visited. -/
theorem keeps_loadOr {V : List String} (tooDeep : Error) (levels : Nat) (location : Location)
    (inclusion : Inclusion) :
    Keeps (fun t => V ⊆ t.visited) (loadOr files limits tooDeep levels location inclusion) := by
  induction levels generalizing location inclusion with
  | zero => exact keeps_throw _
  | succ levels ih => exact keeps_visit ih inclusion

/-- How many of some keys have not been visited. -/
def unvisited (keys : List String) (s : Loading) : Nat :=
  (keys.filter fun k => decide (k ∉ s.visited)).length

/-- With each visit there is less to be visited. -/
theorem unvisited_lt {keys : List String} {s t : Loading} {key : String} (hkey : key ∈ keys)
    (hs : key ∉ s.visited) (ht : key :: s.visited ⊆ t.visited) :
    unvisited keys t < unvisited keys s := by
  have hfilter : (keys.filter fun k => decide (k ∉ t.visited)) =
      (keys.filter fun k => decide (k ∉ s.visited)).filter fun k => decide (k ∉ t.visited) := by
    rw [List.filter_filter]
    refine List.filter_congr fun k _ => ?_
    by_cases hk : k ∈ s.visited
    · simp [ht (List.mem_cons_of_mem key hk)]
    · simp [hk]
  unfold unvisited
  rw [hfilter, List.length_filter_lt_length_iff_exists]
  refine ⟨key, List.mem_filter.mpr ⟨hkey, decide_eq_true hs⟩, ?_⟩
  simp [ht List.mem_cons_self]

/-- References cannot be nested deeper than there are documents that can be read, so it does not
matter what happens where they are nested deeper. -/
theorem alike_loadOr {keys : List String}
    (hkeys : ∀ location content, Source.load files limits location = .ok content →
      Source.key files location ∈ keys) (tooDeep tooDeep' : Error) (levels levels' : Nat)
    (location : Location) (inclusion : Inclusion) :
    Alike (fun s => unvisited keys s < levels ∧ unvisited keys s < levels')
      (loadOr files limits tooDeep levels location inclusion)
      (loadOr files limits tooDeep' levels' location inclusion) := by
  induction levels generalizing levels' location inclusion with
  | zero => exact fun s hs => absurd hs.1 (Nat.not_lt_zero _)
  | succ levels ih =>
    rintro s ⟨hs, hs'⟩
    obtain ⟨levels', rfl⟩ : ∃ n, levels' = n + 1 := ⟨levels' - 1, by omega⟩
    refine alike_visit inclusion s (fun content hcontent hnew target inclusion => ?_)
      (fun target inclusion => keeps_loadOr tooDeep levels target inclusion) s rfl
    refine (ih levels' target inclusion).mono fun t ht => ?_
    have hlt := unvisited_lt (hkeys _ _ hcontent) hnew ht
    omega

end Visit

/-! ## The walk -/

section Walk

variable {files : FileSystem} {limits : Limits}

/-- What has been loaded is the documents at some locations, and these have been visited. -/
structure HoldsAll (files : FileSystem) (limits : Limits) (s : Loading) (loaded : List Location) :
    Prop where
  documents : List.Forall₂ (fun location document =>
    document.context.source = Source.key files location ∧
      location.Holds files limits document.root) loaded s.documents.toList
  visited : ∀ k, k ∈ s.visited ↔ k ∈ loaded.map (Source.key files)

/-- The locations that have been loaded after others are those of a walk. -/
def Walks (files : FileSystem) (limits : Limits) (loaded locations : List Location) (s : Loading) :
    Prop :=
  ∃ new, HoldsAll files limits s (loaded ++ new) ∧
    Walk (Source.key files) (Location.Targets files limits)
      {k | k ∈ loaded.map (Source.key files)} locations new

/-- A walk is continued by a location that has not been visited, with what is below it. -/
theorem Walks.cons {loaded new locations : List Location} {location : Location} {s : Loading}
    (h : Walks files limits (loaded ++ new) locations s)
    (hnew : Walk (Source.key files) (Location.Targets files limits)
      {k | k ∈ loaded.map (Source.key files)} [location] new) :
    Walks files limits loaded (location :: locations) s := by
  obtain ⟨new', hs, hnew'⟩ := h
  refine ⟨new ++ new', by rwa [← List.append_assoc], ?_⟩
  rw [← List.singleton_append]
  refine hnew.append ?_
  convert hnew' using 1
  ext k
  simp

/-- References are followed one after the other. -/
theorem returns_forM_walk {levels : Nat}
    (ih : ∀ location inclusion {s loaded}, HoldsAll files limits s loaded →
      Returns s (load files limits levels location inclusion) fun _ s' =>
        Walks files limits loaded [location] s')
    (base : Location) (refs : List Reference) {s : Loading} {loaded : List Location}
    (h : HoldsAll files limits s loaded) :
    Returns s (refs.forM fun reference => (do
        let target ← base.resolve reference.location
        load files limits levels target reference.inclusion : LoadM Unit)) fun _ s' =>
      ∃ targets, (refs.map (·.location)).mapM base.resolve = .ok targets ∧
        Walks files limits loaded targets s' := by
  induction refs generalizing s loaded with
  | nil => exact returns_pure.mpr ⟨[], rfl, [], by rwa [List.append_nil], .nil⟩
  | cons reference refs ihrefs =>
    rw [List.forM]
    simp only [returns_bind, returns_liftExcept]
    intro target htarget
    apply (ih target reference.inclusion h).mono
    rintro - s₁ ⟨new, hs₁, hnew⟩
    apply (ihrefs hs₁).mono
    rintro - s₂ ⟨targets, htargets, hwalks⟩
    refine ⟨target :: targets, ?_, hwalks.cons hnew⟩
    rw [List.map_cons, List.mapM_cons, htarget, htargets]
    rfl

/-- What is read from a location is the document there. -/
theorem of_ofText {location : Location} {inclusion : Inclusion} {content : String}
    {document : SchemaDocument} (hcontent : Source.load files limits location = .ok content)
    (hdocument : SchemaDocument.ofText limits (Source.key files location) inclusion content =
      .ok document) :
    document.context.source = Source.key files location ∧
      location.Holds files limits document.root := by
  unfold SchemaDocument.ofText at hdocument
  obtain ⟨parsed, hparsed, hdocument⟩ := bind_eq_ok_iff.mp hdocument
  split at hdocument
  · cases hdocument
  · next root hroot =>
    unfold SchemaDocument.ofRoot at hdocument
    split at hdocument
    · cases hdocument
    · obtain ⟨⟨uri, isChameleon⟩, -, hdocument⟩ := bind_eq_ok_iff.mp hdocument
      cases hdocument
      exact ⟨rfl, content, parsed, hcontent, hparsed, hroot⟩

/-- Documents are loaded as a walk along their references visits them. -/
theorem returns_load_walk (levels : Nat) (location : Location) (inclusion : Inclusion)
    {s : Loading} {loaded : List Location} (h : HoldsAll files limits s loaded) :
    Returns s (load files limits levels location inclusion) fun _ s' =>
      Walks files limits loaded [location] s' := by
  induction levels generalizing location inclusion s loaded with
  | zero => exact returns_throw
  | succ levels ih =>
    rw [load_succ]
    unfold visit
    simp only [returns_bind, returns_get]
    split
    · next hkey =>
      refine returns_modify.mpr ⟨[], ?_, .skip ((h.visited _).mp hkey) .nil⟩
      rw [List.append_nil]
      exact ⟨h.documents, h.visited⟩
    · next hkey =>
      simp only [returns_bind, returns_modify, returns_liftExcept]
      intro content hcontent document hdocument
      apply (returns_references document).mono
      rintro refs s₁ ⟨⟨hdocuments, hvisited⟩, hrefs⟩
      obtain ⟨hsource, hholds⟩ := of_ofText hcontent hdocument
      have hs₁ : HoldsAll files limits { s₁ with documents := s₁.documents.push document }
          (loaded ++ [location]) := by
        constructor
        · rw [hdocuments, Array.toList_push]
          exact List.rel_append h.documents (.cons ⟨hsource, hholds⟩ .nil)
        · intro k
          rw [hvisited, List.mem_cons, h.visited, List.map_append, List.map_singleton,
            List.mem_append, List.mem_singleton, or_comm]
      apply (returns_forM_walk ih location refs hs₁).mono
      rintro - s₂ ⟨targets, htargets, new, hs₂, hnew⟩
      rw [hrefs] at htargets
      refine ⟨location :: (new ++ []), by rwa [List.append_nil, List.append_cons], ?_⟩
      refine .visit (fun hmem => hkey ((h.visited _).mpr hmem)) ⟨_, hholds, htargets⟩ ?_ .nil
      convert hnew using 1
      ext k
      simp [or_comm]

end Walk

end Loading

/-! ## Finite file systems -/

section Finite

open Location (Holds Targets Links)

variable {files : FileSystem} {contents : List (Path × String)} {limits : Limits}
  {location target other : Location} {root root' : Element}

/-- References lead to files and URLs only. -/
theorem resolve_ne_inMemory {base : Location} {reference text : String} :
    base.resolve reference ≠ .ok (.inMemory text) := by
  have hparse : ∀ {found}, Location.parse reference = .ok found → found ≠ .inMemory text := by
    rintro _ h rfl
    unfold Location.parse Location.ofUrl? at h
    split at h
    · cases h
    · split at h
      · split at h <;> cases h
      · split at h <;> cases h
  intro h
  obtain ⟨found, hfound, h⟩ := bind_eq_ok_iff.mp h
  split at h
  · split at h
    · cases h
    · split at h
      · cases h
      · split at h <;> cases h
      · cases h
  · cases h
    exact hparse hfound rfl

/-- A reference of a file leads to a place of its own, or below the parent of the file. -/
theorem resolve_file {path path' : Path} {reference : String}
    (h : (Location.file path).resolve reference = .ok target)
    (h' : (Location.file path').resolve reference = .ok other) :
    target = other ∨ ∃ relative, relative.isAbsolute = false ∧
      target = .file (path.parent.join relative) ∧ other = .file (path'.parent.join relative) := by
  obtain ⟨found, hfound, h⟩ := bind_eq_ok_iff.mp h
  obtain ⟨_, hfound', h'⟩ := bind_eq_ok_iff.mp h'
  cases hfound.symm.trans hfound'
  split at h
  · next relative =>
    dsimp only at h'
    split at h
    · next habsolute =>
      rw [if_pos habsolute] at h'
      exact .inl (Except.ok.inj (h.symm.trans h'))
    · next habsolute =>
      rw [if_neg habsolute] at h'
      cases h
      cases h'
      exact .inr ⟨relative, by simpa using habsolute, rfl, rfl⟩
  · next hfile =>
    split at h'
    · exact absurd rfl (hfile _)
    · exact .inl (Except.ok.inj (h.symm.trans h'))

/-- A text in memory is reached only where one starts. -/
theorem eq_of_links_inMemory {text : String}
    (h : ReflTransGen (Links files limits) location (.inMemory text)) :
    .inMemory text = location := by
  rcases ReflTransGen.cases_tail h with h | ⟨_, -, _, -, _, -, h⟩
  · exact h
  · exact absurd h resolve_ne_inMemory

/-- Documents of one key that are reached are one file, or one text in memory. -/
theorem eq_or_file_of_key (h : files.IsMap contents)
    (hreach : ReflTransGen (Links files limits) location target)
    (hreach' : ReflTransGen (Links files limits) location other)
    (hroot : target.Holds files limits root) (hroot' : other.Holds files limits root')
    (hkey : Source.key files target = Source.key files other) :
    root' = root ∧ (other = target ∨ ∃ path path' canonical,
      target = .file path ∧ other = .file path' ∧ canonical ∈ contents.map Prod.fst ∧
        files.canonical? path = some canonical ∧ files.canonical? path' = some canonical) := by
  obtain ⟨content, document, hcontent, hdocument, hfound⟩ := id hroot
  obtain ⟨content', document', hcontent', hdocument', hfound'⟩ := id hroot'
  cases target with
  | file path =>
    cases other with
    | file path' =>
      obtain ⟨hcanonical', rfl⟩ := h.canonical?_eq_of_key hcontent hcontent' hkey
      obtain ⟨canonical, hcanonical, hmem⟩ := h.exists_canonical hcontent
      cases hdocument.symm.trans hdocument'
      refine ⟨Option.some.inj (hfound'.symm.trans hfound), .inr ⟨path, path', canonical, rfl, rfl,
        List.mem_map.mpr ⟨_, hmem, rfl⟩, hcanonical, hcanonical'.trans hcanonical⟩⟩
    | remote url => cases hcontent'
    | inMemory text => exact absurd hkey (h.key_ne hcontent)
  | remote url => cases hcontent
  | inMemory text =>
    cases other with
    | file path' => exact absurd hkey.symm (h.key_ne hcontent')
    | remote url => cases hcontent'
    | inMemory text' =>
      obtain rfl := eq_of_links_inMemory hreach
      cases eq_of_links_inMemory hreach'
      exact ⟨hroot'.unique hroot, .inl rfl⟩

/-- A reference of a document leads to what is read under the same key, also where the document is
come to by another name. -/
theorem key_eq_of_resolve (h : files.IsMap contents)
    (hreach : ReflTransGen (Links files limits) location target)
    (hreach' : ReflTransGen (Links files limits) location other)
    (hroot : target.Holds files limits root) (hroot' : other.Holds files limits root')
    (hkey : Source.key files target = Source.key files other) {reference : String}
    {next next' : Location} (hnext : target.resolve reference = .ok next)
    (hnext' : other.resolve reference = .ok next') {content : String}
    (hcontent : Source.load files limits next = .ok content)
    (hmem : Source.key files next' ∈ Source.keysOf contents) :
    Source.key files next' = Source.key files next := by
  obtain ⟨-, rfl | ⟨path, path', canonical, rfl, rfl, hcanonical, hpath, hpath'⟩⟩ :=
    eq_or_file_of_key h hreach hreach' hroot hroot' hkey
  · cases hnext.symm.trans hnext'
    rfl
  · obtain rfl | ⟨relative, hrelative, rfl, rfl⟩ := resolve_file hnext hnext'
    · rfl
    · obtain ⟨found, hfound, hfoundMem⟩ := h.exists_canonical hcontent
      obtain hsame | hnot := h.sibling path path' canonical hcanonical hpath hpath' relative found
        hrelative (List.mem_map.mpr ⟨_, hfoundMem, rfl⟩) hfound
      · rw [Source.key, Source.key, hsame, hfound, Option.getD_some, Option.getD_some]
      · exact absurd hmem hnot

/-- What is visited is reached along references. -/
theorem reached_of_walk {visited : List Location}
    (hwalk : Walk (Source.key files) (Targets files limits) ∅ [location] visited) {l : Location}
    (hl : l ∈ visited) : ReflTransGen (Links files limits) location l := by
  obtain ⟨start, hstart, hreach⟩ := hwalk.reached hl
  cases List.mem_singleton.mp hstart
  refine ReflTransGen.mono ?_ _ _ hreach
  rintro a b ⟨bs, hbs, hb⟩
  exact hbs.links hb

/-- All that can be read and is reached is visited. -/
theorem exists_mem_of_reached (h : files.IsMap contents) {visited : List Location}
    (hwalk : Walk (Source.key files) (Targets files limits) ∅ [location] visited)
    (hvisited : ∀ l ∈ visited, ∃ root, l.Holds files limits root)
    (hreach : ReflTransGen (Links files limits) location target)
    (hroot : target.Holds files limits root) :
    ∃ l ∈ visited, Source.key files l = Source.key files target ∧ l.Holds files limits root := by
  have hreached := fun l => reached_of_walk hwalk (l := l)
  obtain ⟨hfirst, hclosed⟩ := hwalk.closed
  have hsame : ∀ {target root}, ReflTransGen (Links files limits) location target →
      target.Holds files limits root → Source.key files target ∈ visited.map (Source.key files) →
      ∃ l ∈ visited, Source.key files l = Source.key files target ∧
        l.Holds files limits root := by
    intro target root hreach hroot hmem
    obtain ⟨l, hl, hkey⟩ := List.mem_map.mp hmem
    obtain ⟨root', hroot'⟩ := hvisited l hl
    obtain ⟨rfl, -⟩ := eq_or_file_of_key h hreach (hreached l hl) hroot hroot' hkey.symm
    exact ⟨l, hl, hkey, hroot'⟩
  induction hreach generalizing root with
  | refl =>
    exact hsame .refl hroot ((hfirst location List.mem_cons_self).resolve_left nofun)
  | @tail mid next hmid hlink ih =>
    obtain ⟨rootMid, hrootMid, reference, hreference, hnext⟩ := hlink
    obtain ⟨l, hl, hkey, hrootL⟩ := ih hrootMid
    refine hsame (hmid.tail ⟨rootMid, hrootMid, reference, hreference, hnext⟩) hroot ?_
    obtain ⟨bs, ⟨rootL, hrootL', hbs⟩, hall⟩ := hclosed l hl
    cases hrootL.unique hrootL'
    obtain ⟨next', hnext', hmem⟩ := Location.exists_of_mapM_resolve hbs hreference
    have hvisitedNext := (hall next' hmem).resolve_left nofun
    obtain ⟨l', hl', hkey'⟩ := List.mem_map.mp hvisitedNext
    obtain ⟨root', content', document', hcontent', -⟩ := hvisited l' hl'
    obtain ⟨content, document, hcontent, -⟩ := id hroot
    have heq := key_eq_of_resolve h hmid (hreached l hl) hrootMid hrootL hkey.symm hnext hnext'
      hcontent (hkey' ▸ h.key_mem hcontent')
    rwa [← heq]

/-- Some documents are those that a walk finds from a location on: in depth-first preorder, each of
those that are reached, and each once, so that the children of each are declared once. -/
structure SchemaDocument.Traversal (files : FileSystem) (limits : Limits) (location : Location)
    (documents : List SchemaDocument) : Prop where
  preorder : ∃ locations, Walk (Source.key files) (Targets files limits) ∅ [location] locations ∧
    (∀ others, Walk (Source.key files) (Targets files limits) ∅ [location] others →
      others = locations) ∧
    List.Forall₂ (fun location document => document.context.source = Source.key files location ∧
      location.Holds files limits document.root) locations documents
  mem_iff : ∀ source root, (∃ document ∈ documents,
      document.context.source = source ∧ document.root = root) ↔
    ∃ target, ReflTransGen (Links files limits) location target ∧
      Source.key files target = source ∧ target.Holds files limits root
  nodup : (documents.map (·.context.source)).Nodup
  declared : ∀ document ∈ documents,
    (SchemaDocument.items documents).filter (·.1.source = document.context.source) =
      document.root.children.map (Prod.mk document.context)

/-- Among documents from different sources, the children with the source of one are its own. -/
theorem filter_items_eq {documents : List SchemaDocument}
    (hnodup : (documents.map (·.context.source)).Nodup) {document : SchemaDocument}
    (hmem : document ∈ documents) :
    (SchemaDocument.items documents).filter (·.1.source = document.context.source) =
      document.root.children.map (Prod.mk document.context) := by
  unfold SchemaDocument.items
  induction documents with
  | nil => cases hmem
  | cons first documents ih =>
    rw [List.map_cons, List.nodup_cons] at hnodup
    rw [List.flatMap_cons, List.filter_append]
    rcases List.mem_cons.mp hmem with rfl | hmem
    · rw [List.filter_eq_self.mpr, List.filter_eq_nil_iff.mpr, List.append_nil]
      · intro item hitem
        obtain ⟨other, hother, hitem⟩ := List.mem_flatMap.mp hitem
        obtain ⟨c, -, rfl⟩ := List.mem_map.mp hitem
        rw [decide_eq_true_iff]
        exact fun heq => hnodup.1 (List.mem_map.mpr ⟨other, hother, heq⟩)
      · intro item hitem
        obtain ⟨c, -, rfl⟩ := List.mem_map.mp hitem
        exact decide_eq_true rfl
    · rw [List.filter_eq_nil_iff.mpr, List.nil_append, ih hnodup.2 hmem]
      intro item hitem
      obtain ⟨c, -, rfl⟩ := List.mem_map.mp hitem
      rw [decide_eq_true_iff]
      exact fun heq => hnodup.1 (List.mem_map.mpr ⟨document, hmem, heq.symm⟩)

/-- The documents that have been loaded are those of a walk. -/
theorem exists_walk_of_loadAll {documents : List SchemaDocument}
    (h : (SchemaDocument.loadAll files limits location).1 = .ok documents) :
    ∃ locations, Walk (Source.key files) (Targets files limits) ∅ [location] locations ∧
      List.Forall₂ (fun location document => document.context.source = Source.key files location ∧
        location.Holds files limits document.root) locations documents := by
  have hstart : Loading.HoldsAll files limits .start [] := ⟨.nil, fun k => Iff.rfl⟩
  have hwalks := Loading.returns_load_walk (limits.schemaDepth + 1) location .root hstart
  unfold SchemaDocument.loadAll at h
  rcases hrun : (Loading.load files limits (limits.schemaDepth + 1) location .root).run.run .start
    with ⟨e | _, final⟩ <;> rw [hrun] at h <;> cases h
  obtain ⟨locations, hfinal, hwalk⟩ := hwalks.of_run hrun
  exact ⟨locations, by simpa using hwalk, hfinal.documents⟩

/-- From a finite file system documents are loaded whatever their references are like. References
are nested no deeper than there are files, so it makes no difference what happens where they are
nested deeper. If loading succeeds, it has found the documents of a depth-first walk. -/
theorem loadAll_traversal (h : files.IsMap contents) (limits : Limits) (location : Location) :
    (∀ tooDeep levels, contents.length + 2 ≤ levels →
      (Loading.loadOr files limits tooDeep levels location .root).run.run .start =
        (Loading.load files limits (contents.length + 2) location .root).run.run .start) ∧
    ∀ documents, (SchemaDocument.loadAll files limits location).1 = .ok documents →
      SchemaDocument.Traversal files limits location documents := by
  constructor
  · intro tooDeep levels hlevels
    have hkeys : ∀ location content, Source.load files limits location = .ok content →
        Source.key files location ∈ Source.keysOf contents := fun _ _ => h.key_mem
    rw [Loading.load_eq_loadOr]
    refine Loading.alike_loadOr hkeys _ _ _ _ _ _ _ ?_
    have hlength : Loading.unvisited (Source.keysOf contents) .start < contents.length + 2 := by
      refine Nat.lt_succ_of_le ((List.length_filter_le _ _).trans ?_)
      simp [Source.keysOf]
    exact ⟨by omega, hlength⟩
  · intro documents hload
    obtain ⟨locations, hwalk, hall⟩ := exists_walk_of_loadAll hload
    have hnodup : (documents.map (·.context.source)).Nodup := by
      rw [← map_eq_map_of_forall₂ (hall.imp fun _ _ h => h.1.symm)]
      exact hwalk.nodup.1
    -- Documents are told apart by their keys, so nothing but the start decides on the walk.
    have hunique : ∀ others, Walk (Source.key files) (Targets files limits) ∅ [location] others →
        others = locations :=
      fun others h => h.unique (fun _ _ _ h h' => h.unique h') hwalk
    refine ⟨⟨locations, hwalk, hunique, hall⟩, fun source root => ?_, hnodup,
      fun document => filter_items_eq hnodup⟩
    constructor
    · rintro ⟨document, hdocument, rfl, rfl⟩
      obtain ⟨l, hl, hkey, hholds⟩ := exists_of_forall₂ hall.flip hdocument
      exact ⟨l, reached_of_walk hwalk hl, hkey.symm, hholds⟩
    · rintro ⟨target, hreach, rfl, hroot⟩
      have hvisited : ∀ l ∈ locations, ∃ root, l.Holds files limits root := by
        intro l hl
        obtain ⟨document, -, -, hholds⟩ := exists_of_forall₂ hall hl
        exact ⟨document.root, hholds⟩
      obtain ⟨l, hl, hkey, hholds⟩ := exists_mem_of_reached h hwalk hvisited hreach hroot
      obtain ⟨document, hdocument, hsource, hholds'⟩ := exists_of_forall₂ hall hl
      exact ⟨document, hdocument, hsource.trans hkey, hholds'.unique hholds⟩

/-- A schema that includes what is at some places. -/
def including (places : List String) : Text.Octets :=
  Text.encode ("<schema xmlns=\"http://www.w3.org/2001/XMLSchema\">" ++
    String.join (places.map fun place => "<include schemaLocation=\"" ++ place ++ "\"/>") ++
    "</schema>")

/-- Four files that include each other in circles, one also itself, some by several names. -/
def circles : FileTree where
  workingDirectory := ["d"]
  files := [
    (["d", "m"], including ["a", "./s/../b", "s/c"]),
    (["d", "a"], including ["../d/m", "s/c"]),
    (["d", "b"], including ["s/../b"]),
    (["d", "s", "c"], including ["../a", "../s/c"])]

theorem wellFormed_circles : circles.WellFormed :=
  ⟨by decide, by decide, by decide, by decide, by decide⟩

/-- The keys of the documents from a location; none if one of them cannot be read. -/
def sourcesOf (files : FileSystem) (location : Location) : Option (List String) :=
  (SchemaDocument.loadAll files .standard location).1.toOption.map (·.map (·.context.source))

theorem sourcesOf_circles : sourcesOf circles.toFileSystem (.file (.ofText "./m")) =
    some ["/d/m", "/d/a", "/d/s/c", "/d/b"] := by
  decide +kernel

theorem loadAll_traversal_circles : circles.toFileSystem.IsMap circles.contents ∧
    ∃ documents, (SchemaDocument.loadAll circles.toFileSystem .standard
        (.file (.ofText "./m"))).1 = .ok documents ∧
      documents.map (·.context.source) = ["/d/m", "/d/a", "/d/s/c", "/d/b"] ∧
      SchemaDocument.Traversal circles.toFileSystem .standard (.file (.ofText "./m"))
        documents := by
  have hmap := FileTree.isMap wellFormed_circles
  have hsources := sourcesOf_circles
  unfold sourcesOf at hsources
  obtain ⟨documents, hdocuments, hsources⟩ := Option.map_eq_some_iff.mp hsources
  have hload := eq_ok_of_toOption hdocuments
  exact ⟨hmap, documents, hload, hsources, (loadAll_traversal hmap .standard _).2 documents hload⟩

end Finite

end Xsd

end SchemaBinding
