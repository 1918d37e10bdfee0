import CrdCompiler.Files.Route
import CrdCompiler.Proofs.FileContents
import CrdCompiler.Proofs.JoinedPaths

/-! # Routes

A route is told by its turns. Turns that are kept keep the route; more links to spare do no harm; a
route that reads is put together from its parts.
-/

namespace CrdCompiler.Route

open FilePath

variable {turn turn' : List String → String → List String → Option Turn}
  {stands stands' : List String → Option Standing} {purpose : Purpose}
  {left left' : Nat} {place place' reached : List String} {piece : String}
  {pieces rest : List String}
  {target : FilePath}

@[simp] theorem follow?_nil (turn : List String → String → List String → Option Turn) (left : Nat)
    (place : List String) : follow? turn left place [] = some (place, left) := by
  cases left <;> rfl

theorem follow?_cons (turn : List String → String → List String → Option Turn) (left : Nat)
    (place : List String) (piece : String) (rest : List String) :
    follow? turn left place (piece :: rest) =
      match turn place piece rest with
      | none => none
      | some .on => follow? turn left (FilePath.pass place piece) rest
      | some (.along target) => detour? turn place target rest left := by
  cases left <;> (rw [follow?, followWith]; cases turn place piece rest with
    | none => rfl
    | some turned => cases turned <;> rfl)

theorem induct {motive : Nat → List String → List String → Prop}
    (nil : ∀ left place, motive left place [])
    (cons : ∀ left place piece rest, (∀ next, motive left next rest) →
      (∀ fewer < left, ∀ next pieces, motive fewer next pieces) →
      motive left place (piece :: rest))
    (left : Nat) (place pieces : List String) : motive left place pieces := by
  induction left using Nat.strongRecOn generalizing place pieces with
  | ind left fewer =>
      induction pieces generalizing place with
      | nil => exact nil left place
      | cons piece rest induction => exact cons left place piece rest induction fewer

theorem detour?_eq_some_iff {result : List String × Nat} :
    detour? turn place target rest left = some result ↔
      ∃ fewer, left = fewer + 1 ∧
        follow? turn fewer (target.origin place) (target.pieces ++ rest) = some result := by
  cases left <;> simp [detour?]

/-- Turns that are kept keep the route. -/
theorem follow?_imp
    (kept : ∀ place piece rest turned, turn place piece rest = some turned →
      turn' place piece rest = some turned)
    {result : List String × Nat} (followed : follow? turn left place pieces = some result) :
    follow? turn' left place pieces = some result := by
  induction left, place, pieces using induct with
  | nil left place => rwa [follow?_nil] at followed ⊢
  | cons left place piece rest onward fewer =>
      rw [follow?_cons] at followed ⊢
      cases turned : turn place piece rest with
      | none => simp [turned] at followed
      | some way =>
          rw [turned] at followed
          rw [kept place piece rest way turned]
          cases way with
          | on => exact onward _ followed
          | along target =>
              rcases detour?_eq_some_iff.mp followed with ⟨less, rfl, followed⟩
              exact fewer less (Nat.lt_succ_self less) _ _ followed

theorem follow?_more (more : Nat)
    (followed : follow? turn left place pieces = some (reached, left')) :
    follow? turn (left + more) place pieces = some (reached, left' + more) := by
  induction left, place, pieces using induct with
  | nil left place =>
      rw [follow?_nil] at followed ⊢
      cases followed
      rfl
  | cons left place piece rest onward fewer =>
      rw [follow?_cons] at followed ⊢
      cases turned : turn place piece rest with
      | none => simp [turned] at followed
      | some way =>
          rw [turned] at followed
          cases way with
          | on => exact onward _ followed
          | along target =>
              rcases detour?_eq_some_iff.mp followed with ⟨less, rfl, followed⟩
              exact detour?_eq_some_iff.mpr ⟨less + more, Nat.succ_add_eq_add_succ less more ▸ rfl,
                fewer less (Nat.lt_succ_self less) _ _ followed⟩

theorem follow?_left_le (followed : follow? turn left place pieces = some (reached, left')) :
    left' ≤ left := by
  induction left, place, pieces using induct with
  | nil left place =>
      rw [follow?_nil] at followed
      cases followed
      exact Nat.le_refl _
  | cons left place piece rest onward fewer =>
      rw [follow?_cons] at followed
      cases turned : turn place piece rest with
      | none => simp [turned] at followed
      | some way =>
          rw [turned] at followed
          cases way with
          | on => exact onward _ followed
          | along target =>
              rcases detour?_eq_some_iff.mp followed with ⟨less, rfl, followed⟩
              exact Nat.le_succ_of_le (fewer less (Nat.lt_succ_self less) _ _ followed)

theorem follow?_of_le (followed : follow? turn left place pieces = some (reached, left'))
    {more : Nat} (enough : left ≤ more) :
    ∃ spared, follow? turn more place pieces = some (reached, spared) := by
  rcases Nat.exists_eq_add_of_le enough with ⟨extra, rfl⟩
  exact ⟨_, follow?_more extra followed⟩

/-- Where the pieces behind play no part, a route is put together from its parts. -/
theorem follow?_append (steady : ∀ place piece rest more,
      turn place piece (rest ++ more) = turn place piece rest)
    (left : Nat) (place pieces more : List String) :
    follow? turn left place (pieces ++ more) =
      (follow? turn left place pieces).bind fun reached =>
        follow? turn reached.2 reached.1 more := by
  induction left, place, pieces using induct with
  | nil left place => rw [List.nil_append, follow?_nil, Option.bind_some]
  | cons left place piece rest onward fewer =>
      rw [List.cons_append, follow?_cons, follow?_cons, steady]
      cases turn place piece rest with
      | none => rfl
      | some way =>
          cases way with
          | on => exact onward _
          | along target =>
              cases left with
              | zero => rfl
              | succ less =>
                  change follow? turn less (target.origin place)
                    (target.pieces ++ (rest ++ more)) = _
                  rw [← List.append_assoc]
                  exact fewer less (Nat.lt_succ_self less) _ _

theorem detour?_append (steady : ∀ place piece rest more,
      turn place piece (rest ++ more) = turn place piece rest)
    (left : Nat) (place : List String) (target : FilePath) (rest : List String) :
    detour? turn place target rest left =
      (detour? turn place target [] left).bind fun reached =>
        follow? turn reached.2 reached.1 rest := by
  cases left with
  | zero => rfl
  | succ less => rw [detour?, detour?, List.append_nil, follow?_append steady]

/-! ## Turns by what stands -/

theorem nameTurn?_read (name : String) (isLast isLast' : Bool) (standing : Option Standing) :
    nameTurn? .read name isLast standing = nameTurn? .read name isLast' standing := by
  cases standing with
  | none => simp [nameTurn?]
  | some standing => cases standing <;> simp [nameTurn?]

theorem turn?_read_append (stands : List String → Option Standing) (place : List String)
    (piece : String) (rest more : List String) :
    turn? stands .read place piece (rest ++ more) = turn? stands .read place piece rest := by
  rw [turn?, turn?, nameTurn?_read]

theorem follow?_read_append (stands : List String → Option Standing) (left : Nat)
    (place pieces more : List String) :
    follow? (turn? stands .read) left place (pieces ++ more) =
      (follow? (turn? stands .read) left place pieces).bind fun reached =>
        follow? (turn? stands .read) reached.2 reached.1 more :=
  follow?_append (turn?_read_append stands) left place pieces more

theorem detour?_read_append (stands : List String → Option Standing) (left : Nat)
    (place : List String) (target : FilePath) (rest : List String) :
    detour? (turn? stands .read) place target rest left =
      (detour? (turn? stands .read) place target [] left).bind fun reached =>
        follow? (turn? stands .read) reached.2 reached.1 rest :=
  detour?_append (turn?_read_append stands) left place target rest

theorem directory_of_turn? {turned : Turn}
    (turns : turn? stands purpose place piece rest = some turned) :
    stands place = some .directory := by
  by_contra other
  rw [turn?, if_pos other] at turns
  cases turns

/-- Directories stay, and nothing that stands is gone or comes to be a link. -/
structure Keeps (before after : List String → Option Standing) : Prop where
  directory : ∀ place, before place = some .directory → after place = some .directory
  standing : ∀ place, (before place).isSome → (after place).isSome
  links : ∀ place target, before place = some (.link target) ↔ after place = some (.link target)

theorem turn?_name (directory : stands place = some .directory)
    (moves : ¬ (staysPut piece ∨ piece = "..")) :
    turn? stands purpose place piece rest =
      nameTurn? purpose piece rest.isEmpty (stands (place ++ [piece])) := by
  rw [turn?, if_neg (not_not_intro directory), if_neg moves]

theorem pass_name (moves : ¬ (staysPut piece ∨ piece = "..")) :
    FilePath.pass place piece = place ++ [piece] := by
  rw [not_or] at moves
  rw [FilePath.pass, if_neg moves.1, if_neg moves.2]

theorem turn?_inPlace (directory : stands place = some .directory)
    (stays : staysPut piece ∨ piece = "..") :
    turn? stands purpose place piece rest = some .on := by
  rw [turn?, if_neg (not_not_intro directory), if_pos stays]

theorem nameTurn?_of_not_link {name : String} {isLast : Bool} {standing : Standing}
    (plain : ∀ target, standing ≠ .link target) :
    nameTurn? purpose name isLast (some standing) = some .on := by
  cases standing with
  | link target => exact absurd rfl (plain target)
  | file | directory => rfl

theorem Keeps.turn? (keeps : Keeps stands stands') {turned : Turn}
    (turns : Route.turn? stands purpose place piece rest = some turned) :
    Route.turn? stands' purpose place piece rest = some turned := by
  have directory := directory_of_turn? turns
  have directory' := keeps.directory place directory
  by_cases stays : staysPut piece ∨ piece = ".."
  · rwa [turn?_inPlace directory stays, ← turn?_inPlace directory' stays] at turns
  rw [turn?_name directory stays] at turns
  rw [turn?_name directory' stays]
  have links := keeps.links (place ++ [piece])
  have standing := keeps.standing (place ++ [piece])
  generalize stands (place ++ [piece]) = here at turns links standing
  generalize stands' (place ++ [piece]) = there at links standing ⊢
  cases there with
  | none =>
      cases here with
      | none => exact turns
      | some held => exact absurd (standing rfl) nofun
  | some held' =>
      by_cases linked : ∃ target, held' = .link target
      · rcases linked with ⟨target, rfl⟩
        rwa [(links target).mpr rfl] at turns
      · rw [not_exists] at linked
        rw [nameTurn?_of_not_link linked]
        -- Nor did a link stand there before, so the way went on.
        cases here with
        | none =>
            rw [nameTurn?] at turns
            split at turns
            · exact turns
            · cases turns
        | some held =>
            rwa [nameTurn?_of_not_link] at turns
            rintro target rfl
            exact linked target (Option.some.inj ((links target).mp rfl))

theorem Keeps.follow? (keeps : Keeps stands stands') {result : List String × Nat}
    (followed : follow? (Route.turn? stands purpose) left place pieces = some result) :
    Route.follow? (Route.turn? stands' purpose) left place pieces = some result :=
  follow?_imp (fun _ _ _ _ => keeps.turn?) followed

theorem Keeps.detour? (keeps : Keeps stands stands') {result : List String × Nat}
    (followed : detour? (Route.turn? stands purpose) place target rest left = some result) :
    Route.detour? (Route.turn? stands' purpose) place target rest left = some result := by
  rcases detour?_eq_some_iff.mp followed with ⟨fewer, rfl, followed⟩
  exact detour?_eq_some_iff.mpr ⟨fewer, rfl, keeps.follow? followed⟩

theorem turn?_of_look {turned : Turn} (turns : turn? stands .look place piece rest = some turned)
    (follows : ¬ (staysPut piece ∨ piece = "..") →
      ∀ target, stands (place ++ [piece]) = some (.link target) → rest ≠ []) :
    turn? stands .read place piece rest = some turned := by
  have directory := directory_of_turn? turns
  by_cases stays : staysPut piece ∨ piece = ".."
  · rwa [turn?_inPlace directory stays] at turns ⊢
  rw [turn?_name directory stays] at turns ⊢
  cases here : stands (place ++ [piece]) with
  | none => simp [here, nameTurn?] at turns
  | some standing =>
      rw [here] at turns
      cases standing with
      | file text => exact turns
      | directory => exact turns
      | link target => simpa [nameTurn?, follows stays target here] using turns

theorem follow?_of_look (plain : ∀ target, stands reached ≠ some (.link target))
    (followed : follow? (turn? stands .look) left place pieces = some (reached, left')) :
    follow? (turn? stands .read) left place pieces = some (reached, left') := by
  induction left, place, pieces using induct with
  | nil left place => rwa [follow?_nil] at followed ⊢
  | cons left place piece rest onward fewer =>
      rw [follow?_cons] at followed ⊢
      cases turned : turn? stands .look place piece rest with
      | none => simp [turned] at followed
      | some way =>
          rw [turned] at followed
          have reads : turn? stands .read place piece rest = some way := by
            apply turn?_of_look turned
            rintro moves target linked rfl
            rw [turn?_name (directory_of_turn? turned) moves, linked] at turned
            cases turned
            rw [follow?_nil, pass_name moves] at followed
            cases followed
            exact plain target linked
          rw [reads]
          cases way with
          | on => exact onward _ followed
          | along target =>
              rcases detour?_eq_some_iff.mp followed with ⟨less, rfl, followed⟩
              exact detour?_eq_some_iff.mpr
                ⟨less, rfl, fewer less (Nat.lt_succ_self less) _ _ followed⟩

theorem follow?_ends
    (rooted : ∀ place, stands place = some .directory → stands place.dropLast = some .directory)
    (moves : pieces ≠ [])
    (followed : follow? (turn? stands purpose) left place pieces = some (reached, left')) :
    stands reached = some .directory ∨
      ∃ directory name, reached = directory ++ [name] ∧ stands directory = some .directory := by
  induction left, place, pieces using induct with
  | nil left place => exact absurd rfl moves
  | cons left place piece rest onward fewer =>
      rw [follow?_cons] at followed
      cases turned : turn? stands purpose place piece rest with
      | none => simp [turned] at followed
      | some way =>
          rw [turned] at followed
          cases way with
          | along target =>
              rcases detour?_eq_some_iff.mp followed with ⟨less, rfl, followed⟩
              apply fewer less (Nat.lt_succ_self less) _ _ _ followed
              exact List.append_ne_nil_of_left_ne_nil target.pieces_ne_nil rest
          | on =>
              by_cases last : rest = []
              · subst last
                rw [follow?_nil] at followed
                cases followed
                have directory := directory_of_turn? turned
                unfold FilePath.pass
                split
                · exact .inl directory
                · split
                  · exact .inl (rooted place directory)
                  · exact .inr ⟨place, piece, rfl, directory⟩
              · exact onward _ last followed

/-! ## Routes told by links -/

/-- As if a directory stood wherever no link does. -/
def unhindered (links : List String → Option FilePath) (place : List String) : Option Standing :=
  some ((links place).elim .directory .link)

theorem unhindered_eq_directory_iff {links : List String → Option FilePath} :
    unhindered links place = some .directory ↔ links place = none := by
  cases found : links place <;> simp [unhindered, found]

theorem nameTurn?_unhindered {links : List String → Option FilePath} (name : String)
    (isLast : Bool) (place : List String) :
    nameTurn? .read name isLast (unhindered links place) =
      some ((links place).elim .on .along) := by
  cases found : links place <;> simp [unhindered, found, nameTurn?]

theorem unhindered_of_directory {links : List String → Option FilePath}
    (told : ∀ place target, stands place = some (.link target) ↔ links place = some target)
    (directory : stands place = some .directory) : unhindered links place = some .directory := by
  rw [unhindered_eq_directory_iff, Option.eq_none_iff_forall_ne_some]
  intro target linked
  cases directory.symm.trans ((told _ _).mpr linked)

theorem links_of_along {links : List String → Option FilePath}
    (turns : turn? (unhindered links) .read place piece rest = some (.along target)) :
    links (place ++ [piece]) = some target := by
  have directory := directory_of_turn? turns
  by_cases stays : staysPut piece ∨ piece = ".."
  · rw [turn?_inPlace directory stays] at turns
    cases turns
  · rw [turn?_name directory stays, nameTurn?_unhindered] at turns
    cases linked : links (place ++ [piece]) with
    | none => simp [linked] at turns
    | some other =>
        rw [linked] at turns
        cases turns
        rfl

theorem turn?_unhindered {links : List String → Option FilePath}
    (told : ∀ place target, stands place = some (.link target) ↔ links place = some target)
    (follows : purpose ≠ .look) {turned : Turn}
    (turns : turn? stands purpose place piece rest = some turned) :
    turn? (unhindered links) .read place piece rest = some turned := by
  have directory := directory_of_turn? turns
  have passable := unhindered_of_directory told directory
  by_cases stays : staysPut piece ∨ piece = ".."
  · rwa [turn?_inPlace directory stays, ← turn?_inPlace passable stays] at turns
  rw [turn?_name directory stays] at turns
  rw [turn?_name passable stays, nameTurn?_unhindered]
  cases linked : links (place ++ [piece]) with
  | some target =>
      rw [(told _ _).mpr linked] at turns
      simpa [nameTurn?, follows] using turns
  | none =>
      cases here : stands (place ++ [piece]) with
      | none =>
          rw [here, nameTurn?] at turns
          split at turns
          · exact turns
          · cases turns
      | some standing =>
          rwa [here, nameTurn?_of_not_link] at turns
          rintro target rfl
          cases linked.symm.trans ((told _ _).mp here)

theorem follow?_unhindered {links : List String → Option FilePath}
    (told : ∀ place target, stands place = some (.link target) ↔ links place = some target)
    (follows : purpose ≠ .look) {result : List String × Nat}
    (followed : follow? (turn? stands purpose) left place pieces = some result) :
    follow? (turn? (unhindered links) .read) left place pieces = some result :=
  follow?_imp (fun _ _ _ _ => turn?_unhindered told follows) followed

/-! ## Places that a route passes -/

/-- The place is passed by pieces that are followed from another, as far as the links tell. -/
inductive Passes (links : List String → Option FilePath) (passed : List String) :
    List String → List String → Prop where
  | here (pieces : List String) : Passes links passed passed pieces
  | on {place : List String} {piece : String} {rest : List String}
      (turns : turn? (unhindered links) .read place piece rest = some .on)
      (later : Passes links passed (FilePath.pass place piece) rest) :
      Passes links passed place (piece :: rest)
  | along {place : List String} {piece : String} {rest : List String} {target : FilePath}
      (turns : turn? (unhindered links) .read place piece rest = some (.along target))
      (later : Passes links passed (target.origin place) (target.pieces ++ rest)) :
      Passes links passed place (piece :: rest)

theorem Passes.of_unlinked {links : List String → Option FilePath} {passed : List String}
    (passes : Passes links passed place (piece :: rest))
    (unlinked : links (place ++ [piece]) = none) :
    passed = place ∨ Passes links passed (FilePath.pass place piece) rest := by
  cases passes with
  | here => exact .inl rfl
  | on turns later => exact .inr later
  | along turns later => cases unlinked.symm.trans (links_of_along turns)

theorem turn?_congr {links : List String → Option FilePath}
    (told : ∀ place target, stands place = some (.link target) ↔ links place = some target)
    (told' : ∀ place target, stands' place = some (.link target) ↔ links place = some target)
    (same : ∀ passed, Passes links passed place (piece :: rest) → stands' passed = stands passed) :
    turn? stands' .read place piece rest = turn? stands .read place piece rest := by
  have here := same place (.here _)
  by_cases directory : stands place = some .directory
  · have directory' : stands' place = some .directory := here.trans directory
    by_cases stays : staysPut piece ∨ piece = ".."
    · rw [turn?_inPlace directory stays, turn?_inPlace directory' stays]
    rw [turn?_name directory stays, turn?_name directory' stays]
    cases linked : links (place ++ [piece]) with
    | some target => rw [(told _ _).mpr linked, (told' _ _).mpr linked]
    | none =>
        have passable := unhindered_of_directory told directory
        have on : turn? (unhindered links) .read place piece rest = some .on := by
          rw [turn?_name passable stays, nameTurn?_unhindered, linked]
          rfl
        rw [same (place ++ [piece]) (.on on (pass_name stays ▸ .here rest))]
  · rw [turn?, turn?, here, if_pos directory, if_pos directory]

/-- A route is told by what stands at the places that it passes. -/
theorem follow?_congr {links : List String → Option FilePath}
    (told : ∀ place target, stands place = some (.link target) ↔ links place = some target)
    (told' : ∀ place target, stands' place = some (.link target) ↔ links place = some target)
    (same : ∀ passed, Passes links passed place pieces → stands' passed = stands passed) :
    follow? (turn? stands' .read) left place pieces =
      follow? (turn? stands .read) left place pieces := by
  have follows : Purpose.read ≠ .look := by decide
  induction left, place, pieces using induct with
  | nil left place => rw [follow?_nil, follow?_nil]
  | cons left place piece rest onward fewer =>
      rw [follow?_cons, follow?_cons, turn?_congr told told' same]
      cases turned : turn? stands .read place piece rest with
      | none => rfl
      | some way =>
          have turns := turn?_unhindered told follows turned
          cases way with
          | on => exact onward _ fun passed later => same passed (.on turns later)
          | along target =>
              cases left with
              | zero => rfl
              | succ less =>
                  exact fewer less (Nat.lt_succ_self less) _ _ fun passed later =>
                    same passed (.along turns later)

theorem follow?_passes {links : List String → Option FilePath}
    (told : ∀ place target, stands place = some (.link target) ↔ links place = some target)
    (followed : follow? (turn? stands .read) left place pieces = some (reached, left')) :
    Passes links reached place pieces := by
  have follows : Purpose.read ≠ .look := by decide
  induction left, place, pieces using induct with
  | nil left place =>
      rw [follow?_nil] at followed
      cases followed
      exact .here []
  | cons left place piece rest onward fewer =>
      rw [follow?_cons] at followed
      cases turned : turn? stands .read place piece rest with
      | none => simp [turned] at followed
      | some way =>
          have turns := turn?_unhindered told follows turned
          rw [turned] at followed
          cases way with
          | on => exact .on turns (onward _ followed)
          | along target =>
              rcases detour?_eq_some_iff.mp followed with ⟨less, rfl, followed⟩
              exact .along turns (fewer less (Nat.lt_succ_self less) _ _ followed)

end CrdCompiler.Route
