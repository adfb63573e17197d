import ActionPlan.Foundation.PercentEncoding
import ActionPlan.Rag.Ingestion
import Mathlib.Data.Bool.AllAny
import Mathlib.Data.List.DropRight

/-! # From the history page to a project

The id of a workflow as `agent/service.py` generates it, the routes of `lib/useHashRoute.ts`, the
requests of `api/client.ts`, and the path as the server reads it.
-/

namespace ActionPlan.Frontend

open ActionPlan.Foundation ActionPlan.Rag

section WorkflowIds

/-- `str.lower` and `str.isalnum`, which depend on the tables of Unicode outside ASCII. -/
structure CharacterClasses where
  lower : List Char → List Char
  isAlnum : Char → Bool
  isAlnum_ascii : ∀ char, char.toNat < 128 → isAlnum char = char.isAlphanum

/-- `uuid4().hex[:8]`. -/
structure HexToken where
  digits : List Char
  length : digits.length = 8
  hex : ∀ digit ∈ digits, digit ∈ "0123456789abcdef".toList

/-- `text.split()`. -/
def split (text : List Char) : List (List Char) :=
  (text.splitOnP isSpace).filter fun word => word ≠ []

/-- The part of an id that is made of the goal. -/
def slug (classes : CharacterClasses) (goal : List Char) : List Char :=
  let letters := (classes.lower goal).filter fun char => classes.isAlnum char || isSpace char
  (['-'].intercalate (split letters)).take 40

/-- `_generate_workflow_id`. -/
def generateWorkflowId (classes : CharacterClasses) (goal : List Char) (token : HexToken) :
    List Char :=
  let slug := slug classes goal
  "wf_".toList ++ (if slug = [] then "goal".toList else slug) ++ "_".toList ++ token.digits

end WorkflowIds

section Routes

/-- What `trim` takes off. -/
def isWhiteSpace (char : Char) : Bool :=
  let code := char.toNat
  (9 ≤ code && code ≤ 13) || (0x2000 ≤ code && code ≤ 0x200A) ||
    [0x20, 0xA0, 0x1680, 0x2028, 0x2029, 0x202F, 0x205F, 0x3000, 0xFEFF].contains code

/-- `String.prototype.trim`. -/
def trim (text : List Char) : List Char := (text.dropWhile isWhiteSpace).rdropWhile isWhiteSpace

/-- `normalize`. -/
def normalize (route : List Char) : List Char :=
  if route = "workflow/".toList then "workflow".toList
  else if route.getLast? = some '/' then route.dropLast
  else route

/-- `hash.replace(/^#\/?/, "")`. -/
def dropHash : List Char → List Char
  | '#' :: '/' :: rest => rest
  | '#' :: rest => rest
  | hash => hash

/-- `parseHashRoute`. -/
def parseHashRoute (hash : List Char) : List Char := normalize (trim (dropHash hash))

/-- `routeToHash`. -/
def routeToHash (route : List Char) : List Char := "#/".toList ++ normalize route

/-- The characters that a URL keeps in its fragment. -/
def isFragmentChar (char : Char) : Bool :=
  0x20 < char.toNat && char.toNat < 0x7F && !(['"', '<', '>', '`'].contains char)

/-- What is read from `location.hash` after a hash has been assigned to it. -/
def assignHash (hash : List Char) : List Char :=
  let input := match hash with
    | '#' :: rest => rest
    | rest => rest
  let fragment := input.filter fun char => !(['\t', '\n', '\r'].contains char)
  if fragment = [] then [] else '#' :: PercentEncoding.encode isFragmentChar fragment

/-- `navigate`: the hash after it. -/
def navigate (hash route : List Char) : List Char :=
  if parseHashRoute hash = normalize route then hash else assignHash (routeToHash route)

/-- The view that a fragment opens, with its parameters and the query that is left. -/
structure MatchResult where
  name : List Char
  params : List (List Char × List Char)
  query : List Char

/-- `route.split("/").filter(Boolean)`. -/
def segments (route : List Char) : List (List Char) :=
  (route.splitOn '/').filter fun segment => segment ≠ []

/-- The loop of `matchRoute` over two lists of segments of one length. -/
def matchSegments : List (List Char) → List (List Char) → Option (List (List Char × List Char))
  | [], [] => some []
  | (':' :: name) :: patterns, segment :: segments =>
    (matchSegments patterns segments).map ((name, segment) :: ·)
  | pattern :: patterns, segment :: segments =>
    if pattern = segment then matchSegments patterns segments else none
  | _, _ => none

/-- `matchRoute`. -/
def matchRoute (route pattern : List Char) : Option MatchResult :=
  (matchSegments (segments pattern) (segments route)).map fun params =>
    { name := pattern, params, query := route.dropWhile fun char => char ≠ '?' }

/-- The workflow whose page `App` shows for a route. -/
def shownWorkflow (route : List Char) : Option (List Char) :=
  if route = [] ∨ route = "history".toList ∨ route = "about".toList then none
  else (matchRoute route "workflow/:id".toList).bind fun found => found.params.lookup "id".toList

end Routes

section Requests

/-- The characters that `encodeURIComponent` keeps. -/
def isUnreserved (char : Char) : Bool := char.isAlphanum || "-_.!~*'()".toList.contains char

/-- `encodeURIComponent`. -/
def encodeURIComponent (text : List Char) : List Char := PercentEncoding.encode isUnreserved text

/-- The route of a workflow's page, with the id as it stands in the hash. -/
def workflowRoute (component : List Char) : List Char := "workflow/".toList ++ component

/-- The path of `getWorkflowStatusRequest`. -/
def statusPath (workflowId : List Char) : List Char :=
  "/goals/".toList ++ encodeURIComponent workflowId ++ "/status".toList

/-- Opening a project from the history page: the path that its page requests first. -/
def openProject (hash workflowId : List Char) : Option (List Char) :=
  let after := navigate hash (workflowRoute (encodeURIComponent workflowId))
  (shownWorkflow (parseHashRoute after)).map statusPath

/-- The `workflow_id` of `/goals/{workflow_id}/status`, in a path that is decoded once. -/
def servedWorkflow (path : List Char) : Option (List Char) :=
  (PercentEncoding.decode path).bind fun path =>
    match path.splitOn '/' with
    | [[], goals, workflowId, status] =>
      if goals = "goals".toList ∧ status = "status".toList ∧ workflowId ≠ [] then some workflowId
      else none
    | _ => none

end Requests

section Components

/-- What `encodeURIComponent` gives consists of these characters. -/
def isComponentChar (char : Char) : Bool := isUnreserved char || char == '%'

/-- A property of the ASCII characters is checked on each of them. -/
theorem forall_ascii (property : Char → Prop)
    (each : ∀ code < 128, property (Char.ofNat code)) {char : Char} (ascii : char.toNat < 128) :
    property char := by
  have checked := each char.toNat ascii
  rwa [Char.ofNat_toNat] at checked

/-- The ASCII letters and digits. -/
theorem isAlphanum_ascii {char : Char} (alphanumeric : char.isAlphanum = true) :
    char.toNat < 128 := by
  have ranges : char.isAlphanum =
      (decide (char.val ≥ 'A'.val ∧ char.val ≤ 'Z'.val) ||
        (decide (char.val ≥ 'a'.val) && decide (char.val ≤ 'z'.val)) ||
        (decide (char.val ≥ '0'.val) && decide (char.val ≤ '9'.val))) := rfl
  simp only [ranges, Bool.or_eq_true, Bool.and_eq_true, decide_eq_true_eq, ge_iff_le,
    UInt32.le_iff_toNat_le] at alphanumeric
  have code : char.val.toNat = char.toNat := rfl
  have upper : 'Z'.val.toNat = 90 := rfl
  have lower : 'z'.val.toNat = 122 := rfl
  have digit : '9'.val.toNat = 57 := rfl
  omega

theorem isComponentChar_ascii {char : Char} (component : isComponentChar char = true) :
    char.toNat < 128 := by
  simp only [isComponentChar, isUnreserved, Bool.or_eq_true, List.contains_iff_mem] at component
  rcases component with (alphanumeric | mark) | percent
  · exact isAlphanum_ascii alphanumeric
  · have marks : ∀ mark ∈ "-_.!~*'()".toList, mark.toNat < 128 :=
      List.all_iff_forall_prop.mp (by decide)
    exact marks char mark
  · rw [eq_of_beq percent]
    decide

/-- No router and no URL takes a component's characters for its own. -/
theorem isComponentChar_plain {char : Char} (component : isComponentChar char = true) :
    isFragmentChar char = true ∧ isWhiteSpace char = false ∧
      char ∉ ['\t', '\n', '\r'] ∧ char ≠ '/' := by
  refine forall_ascii (fun char => isComponentChar char = true →
    isFragmentChar char = true ∧ isWhiteSpace char = false ∧
      char ∉ ['\t', '\n', '\r'] ∧ char ≠ '/') ?_ (isComponentChar_ascii component) component
  decide +kernel

/-- An encoded component has no reserved characters. -/
theorem mem_encodeURIComponent {char : Char} {text : List Char}
    (member : char ∈ encodeURIComponent text) : isComponentChar char = true := by
  rcases PercentEncoding.mem_encode member with unreserved | digit
  · rw [isComponentChar, unreserved, Bool.true_or]
  · have digits : ∀ digit ∈ "%0123456789ABCDEF".toList, isComponentChar digit = true :=
      List.all_iff_forall_prop.mp (by decide)
    exact digits char digit

/-- A component is a single segment. -/
theorem slash_not_mem {component : List Char}
    (components : ∀ char ∈ component, isComponentChar char = true) : '/' ∉ component :=
  fun slash => (isComponentChar_plain (components '/' slash)).2.2.2 rfl

/-- The encoding of a text is not empty. -/
theorem encodeURIComponent_ne_nil {text : List Char} (nonempty : text ≠ []) :
    encodeURIComponent text ≠ [] := by
  have longer : text.length ≤ (encodeURIComponent text).length :=
    PercentEncoding.length_le_encode text
  intro empty
  rw [empty, List.length_nil, Nat.le_zero] at longer
  exact nonempty (List.length_eq_zero_iff.mp longer)

end Components

section Navigation

variable {component : List Char}

theorem workflowRoute_eq_intercalate :
    workflowRoute component = ['/'].intercalate ["workflow".toList, component] := by
  rw [List.intercalate_cons_cons, List.intercalate_singleton]
  rfl

theorem getLast?_workflowRoute (nonempty : component ≠ []) :
    (workflowRoute component).getLast? = component.getLast? :=
  List.getLast?_append_of_ne_nil _ nonempty

theorem mem_workflowRoute (components : ∀ char ∈ component, isComponentChar char = true)
    {char : Char} (member : char ∈ workflowRoute component) :
    char = '/' ∨ isComponentChar char = true := by
  rcases List.mem_append.mp member with name | member
  · have letters : ∀ char ∈ "workflow/".toList, char = '/' ∨ isComponentChar char = true :=
      List.all_iff_forall_prop.mp (by decide)
    exact letters char name
  · exact .inr (components char member)

/-- A route has no blanks and nothing that a URL would escape. -/
theorem mem_workflowRoute_plain (components : ∀ char ∈ component, isComponentChar char = true)
    {char : Char} (member : char ∈ workflowRoute component) :
    isFragmentChar char = true ∧ isWhiteSpace char = false ∧ char ∉ ['\t', '\n', '\r'] := by
  rcases mem_workflowRoute components member with rfl | component
  · decide
  · obtain ⟨fragment, space, control, _⟩ := isComponentChar_plain component
    exact ⟨fragment, space, control⟩

/-- The route of a workflow does not end with a slash. -/
theorem normalize_workflowRoute (components : ∀ char ∈ component, isComponentChar char = true)
    (nonempty : component ≠ []) :
    normalize (workflowRoute component) = workflowRoute component := by
  have different : workflowRoute component ≠ "workflow/".toList := by
    intro same
    exact nonempty (List.append_right_eq_self.mp same)
  have last : (workflowRoute component).getLast? ≠ some '/' := by
    rw [getLast?_workflowRoute nonempty]
    exact fun slash => slash_not_mem components (List.mem_of_getLast? slash)
  rw [normalize, if_neg different, if_neg last]

/-- Without blanks there is nothing to trim. -/
theorem trim_eq_self {text : List Char} (plain : ∀ char ∈ text, isWhiteSpace char = false) :
    trim text = text := by
  have front : text.dropWhile isWhiteSpace = text := by
    cases text with
    | nil => rfl
    | cons char text => rw [List.dropWhile_cons_of_neg (by simp [plain char List.mem_cons_self])]
  rw [trim, front, List.rdropWhile_eq_self_iff]
  intro nonempty space
  rw [plain _ (List.getLast_mem nonempty)] at space
  cases space

/-- A route of plain characters stands in the hash as it is. -/
theorem assignHash_workflowRoute (components : ∀ char ∈ component, isComponentChar char = true) :
    assignHash ("#/".toList ++ workflowRoute component) =
      "#/".toList ++ workflowRoute component := by
  have fragment : '/' :: workflowRoute component ≠ [] := List.cons_ne_nil _ _
  have kept : ('/' :: workflowRoute component).filter
      (fun char => !(['\t', '\n', '\r'].contains char)) = '/' :: workflowRoute component := by
    rw [List.filter_eq_self]
    intro char member
    rcases List.mem_cons.mp member with rfl | member
    · decide
    · simpa using (mem_workflowRoute_plain components member).2.2
  have encoded : PercentEncoding.encode isFragmentChar ('/' :: workflowRoute component) =
      '/' :: workflowRoute component := by
    rw [PercentEncoding.encode_eq_self_iff]
    intro char member
    rcases List.mem_cons.mp member with rfl | member
    · decide
    · exact (mem_workflowRoute_plain components member).1
  change assignHash ('#' :: '/' :: workflowRoute component) = '#' :: '/' :: workflowRoute component
  simp only [assignHash, kept, if_neg fragment, encoded]

/-- Whatever the hash was before, the page that `navigate` shows is the one of the route. -/
theorem parseHashRoute_navigate (components : ∀ char ∈ component, isComponentChar char = true)
    (nonempty : component ≠ []) (hash : List Char) :
    parseHashRoute (navigate hash (workflowRoute component)) = workflowRoute component := by
  have normal := normalize_workflowRoute components nonempty
  rw [navigate, normal]
  by_cases shown : parseHashRoute hash = workflowRoute component
  · rw [if_pos shown, shown]
  · have plain : ∀ char ∈ workflowRoute component, isWhiteSpace char = false :=
      fun char member => (mem_workflowRoute_plain components member).2.1
    rw [if_neg shown, routeToHash, normal, assignHash_workflowRoute components]
    change normalize (trim (workflowRoute component)) = workflowRoute component
    rw [trim_eq_self plain, normal]

/-- The segments of a route are the parts of which it was made. -/
theorem segments_intercalate {parts : List (List Char)} (nonempty : parts ≠ [])
    (whole : ∀ part ∈ parts, '/' ∉ part ∧ part ≠ []) :
    segments (['/'].intercalate parts) = parts := by
  rw [segments, List.splitOn_intercalate '/' (fun part member => (whole part member).1) nonempty,
    List.filter_eq_self]
  intro part member
  exact decide_eq_true (whole part member).2

/-- The workflow view shows the component of its route. -/
theorem shownWorkflow_workflowRoute
    (components : ∀ char ∈ component, isComponentChar char = true) (nonempty : component ≠ []) :
    shownWorkflow (workflowRoute component) = some component := by
  have slash : '/' ∈ workflowRoute component := List.mem_append_left _ (by decide)
  have other : ¬(workflowRoute component = [] ∨ workflowRoute component = "history".toList ∨
      workflowRoute component = "about".toList) := by
    rintro (same | same | same)
    all_goals
      rw [same] at slash
      exact absurd slash (by decide)
  have parts : segments (workflowRoute component) = ["workflow".toList, component] := by
    rw [workflowRoute_eq_intercalate]
    refine segments_intercalate (List.cons_ne_nil _ _) ?_
    intro part member
    rcases List.mem_cons.mp member with rfl | member
    · decide
    · rw [List.mem_singleton.mp member]
      exact ⟨slash_not_mem components, nonempty⟩
  have pattern : segments "workflow/:id".toList = ["workflow".toList, ":id".toList] := by
    decide +kernel
  rw [shownWorkflow, if_neg other, matchRoute, parts, pattern]
  rfl

end Navigation

section Served

/-- The characters of a request's path. -/
def isPathChar (char : Char) : Bool := isUnreserved char || char == '/'

variable {workflowId : List Char}

/-- The path of a request is the encoding of its segments. -/
theorem statusPath_eq_encode (whole : '/' ∉ workflowId) :
    statusPath workflowId =
      PercentEncoding.encode isPathChar (['/'].intercalate
        [[], "goals".toList, workflowId, "status".toList]) := by
  have before : PercentEncoding.encode isPathChar "/goals/".toList = "/goals/".toList := by
    rw [PercentEncoding.encode_eq_self_iff]
    exact List.all_iff_forall_prop.mp (by decide)
  have after : PercentEncoding.encode isPathChar "/status".toList = "/status".toList := by
    rw [PercentEncoding.encode_eq_self_iff]
    exact List.all_iff_forall_prop.mp (by decide)
  have component : encodeURIComponent workflowId =
      PercentEncoding.encode isPathChar workflowId := by
    refine PercentEncoding.encode_congr ?_
    intro char member
    have different : char ≠ '/' := by
      rintro rfl
      exact whole member
    rw [isPathChar, beq_false_of_ne different, Bool.or_false]
  have parts : ['/'].intercalate [[], "goals".toList, workflowId, "status".toList] =
      "/goals/".toList ++ workflowId ++ "/status".toList := by
    simp only [List.intercalate_cons_cons, List.intercalate_singleton, List.append_assoc]
    rfl
  rw [parts, PercentEncoding.encode_append, PercentEncoding.encode_append, before, after,
    ← component]
  rfl

/-- The server reads the id that the request was made for. -/
theorem servedWorkflow_statusPath (whole : '/' ∉ workflowId) (nonempty : workflowId ≠ []) :
    servedWorkflow (statusPath workflowId) = some workflowId := by
  have escaped : isPathChar '%' = false := by decide
  have plain : ∀ part ∈ [[], "goals".toList, workflowId, "status".toList], '/' ∉ part := by
    intro part member
    simp only [List.mem_cons, List.not_mem_nil, or_false] at member
    rcases member with rfl | rfl | rfl | rfl
    · decide
    · decide
    · exact whole
    · decide
  have parts := List.splitOn_intercalate '/' plain (List.cons_ne_nil _ _)
  rw [servedWorkflow, statusPath_eq_encode whole, PercentEncoding.decode_encode escaped,
    Option.bind_some]
  simp only [parts]
  exact if_pos ⟨trivial, trivial, nonempty⟩

/-- The page keeps the id as it stands in the hash, so that the request encodes it again. -/
theorem openProject_served (nonempty : workflowId ≠ []) (hash : List Char) :
    (openProject hash workflowId).bind servedWorkflow = some (encodeURIComponent workflowId) := by
  have components : ∀ char ∈ encodeURIComponent workflowId, isComponentChar char = true :=
    fun _ member => mem_encodeURIComponent member
  have longer : encodeURIComponent workflowId ≠ [] := encodeURIComponent_ne_nil nonempty
  have whole : '/' ∉ encodeURIComponent workflowId := slash_not_mem components
  rw [openProject, parseHashRoute_navigate components longer,
    shownWorkflow_workflowRoute components longer, Option.map_some, Option.bind_some,
    servedWorkflow_statusPath whole longer]

end Served

section Generated

variable {classes : CharacterClasses}

/-- The ids that `_generate_workflow_id` can produce. -/
def Generated (classes : CharacterClasses) (workflowId : List Char) : Prop :=
  ∃ goal token, generateWorkflowId classes goal token = workflowId

/-- A part of a text that is split has characters of the text that do not separate. -/
theorem mem_of_mem_splitOnP {separates : Char → Bool} {text part : List Char} {char : Char}
    (found : part ∈ text.splitOnP separates) (member : char ∈ part) :
    char ∈ text ∧ separates char = false := by
  induction text generalizing part with
  | nil =>
    rw [List.splitOnP_nil, List.mem_singleton] at found
    rw [found] at member
    cases member
  | cons first text ih =>
    have later : ∀ {part}, part ∈ text.splitOnP separates → char ∈ part →
        char ∈ first :: text ∧ separates char = false := by
      intro part found member
      obtain ⟨inside, plain⟩ := ih found member
      exact ⟨List.mem_cons_of_mem first inside, plain⟩
    rw [List.splitOnP_cons_eq_if_modifyHead] at found
    cases separating : separates first with
    | true =>
      rw [separating, if_pos rfl] at found
      rcases List.mem_cons.mp found with rfl | found
      · cases member
      · exact later found member
    | false =>
      rw [separating, if_neg Bool.false_ne_true] at found
      cases parts : text.splitOnP separates with
      | nil => exact absurd parts (List.splitOnP_ne_nil separates text)
      | cons head rest =>
        rw [parts] at later
        rw [parts, List.modifyHead_cons] at found
        rcases List.mem_cons.mp found with rfl | found
        · rcases List.mem_cons.mp member with rfl | member
          · exact ⟨List.mem_cons_self, separating⟩
          · exact later List.mem_cons_self member
        · exact later (List.mem_cons_of_mem head found) member

/-- A character of joined parts is the separator or comes from a part. -/
theorem mem_of_mem_intercalate {separator : Char} {parts : List (List Char)} {char : Char}
    (member : char ∈ [separator].intercalate parts) :
    char = separator ∨ ∃ part ∈ parts, char ∈ part := by
  induction parts with
  | nil => cases member
  | cons part parts ih =>
    cases parts with
    | nil =>
      rw [List.intercalate_singleton] at member
      exact .inr ⟨part, List.mem_cons_self, member⟩
    | cons next parts =>
      rw [List.intercalate_cons_cons, List.mem_append, List.mem_append, List.mem_singleton]
        at member
      rcases member with (member | same) | member
      · exact .inr ⟨part, List.mem_cons_self, member⟩
      · exact .inl same
      · rcases ih member with same | ⟨found, among, inside⟩
        · exact .inl same
        · exact .inr ⟨found, List.mem_cons_of_mem part among, inside⟩

/-- A slug consists of the characters that the generator keeps and hyphens. -/
theorem mem_slug {goal : List Char} {char : Char} (member : char ∈ slug classes goal) :
    char = '-' ∨ classes.isAlnum char = true := by
  rcases mem_of_mem_intercalate (List.mem_of_mem_take member) with hyphen | ⟨word, found, inside⟩
  · exact .inl hyphen
  · obtain ⟨letter, plain⟩ := mem_of_mem_splitOnP (List.mem_filter.mp found).1 inside
    have kept := (List.mem_filter.mp letter).2
    rw [plain, Bool.or_false] at kept
    exact .inr kept

/-- Of the characters of a generated id, the ASCII ones are those that no encoding changes. -/
theorem isUnreserved_generated {workflowId : List Char} (generated : Generated classes workflowId)
    {char : Char} (member : char ∈ workflowId) :
    isUnreserved char = true ↔ char.toNat < 128 := by
  refine ⟨fun unreserved => isComponentChar_ascii (by rw [isComponentChar, unreserved]; rfl), ?_⟩
  intro ascii
  obtain ⟨goal, token, rfl⟩ := generated
  have hexDigits : ∀ digit ∈ "0123456789abcdef".toList, isUnreserved digit = true :=
    List.all_iff_forall_prop.mp (by decide)
  rw [generateWorkflowId, List.mem_append, List.mem_append, List.mem_append] at member
  rcases member with ((front | name) | underscore) | digit
  · have letters : ∀ letter ∈ "wf_".toList, isUnreserved letter = true :=
      List.all_iff_forall_prop.mp (by decide)
    exact letters char front
  · by_cases blank : slug classes goal = []
    · rw [if_pos blank] at name
      have letters : ∀ letter ∈ "goal".toList, isUnreserved letter = true :=
        List.all_iff_forall_prop.mp (by decide)
      exact letters char name
    · rw [if_neg blank] at name
      rcases mem_slug name with rfl | alphanumeric
      · decide
      · rw [classes.isAlnum_ascii char ascii] at alphanumeric
        rw [isUnreserved, alphanumeric, Bool.true_or]
  · have letters : ∀ letter ∈ "_".toList, isUnreserved letter = true :=
      List.all_iff_forall_prop.mp (by decide)
    exact letters char underscore
  · exact hexDigits char (token.hex char digit)

/-- A generated id is not empty. -/
theorem generated_ne_nil {workflowId : List Char} (generated : Generated classes workflowId) :
    workflowId ≠ [] := by
  obtain ⟨goal, token, rfl⟩ := generated
  intro empty
  cases empty

/-- Opening a project from the history page requests its id exactly when the id is ASCII. -/
theorem open_project_requests_id_iff {workflowId : List Char}
    (generated : Generated classes workflowId) (hash : List Char) :
    (openProject hash workflowId).bind servedWorkflow = some workflowId ↔
      ∀ char ∈ workflowId, char.toNat < 128 := by
  rw [openProject_served (generated_ne_nil generated), Option.some.injEq, encodeURIComponent,
    PercentEncoding.encode_eq_self_iff]
  exact forall₂_congr fun char member => isUnreserved_generated generated member

/-- `str.lower` and `str.isalnum` on the texts of Latin-1. -/
def latin1 : CharacterClasses where
  lower := List.map fun char =>
    let code := char.toNat
    if (65 ≤ code ∧ code ≤ 90) ∨ (0xC0 ≤ code ∧ code ≤ 0xDE ∧ code ≠ 0xD7) then
      Char.ofNat (code + 32)
    else char
  isAlnum := fun char =>
    let code := char.toNat
    char.isAlphanum || [0xAA, 0xB2, 0xB3, 0xB5, 0xB9, 0xBA, 0xBC, 0xBD, 0xBE].contains code ||
      (0xC0 ≤ code && code ≤ 0xFF && code != 0xD7 && code != 0xF7)
  isAlnum_ascii := by
    intro char ascii
    refine forall_ascii (fun char =>
      (char.isAlphanum ||
        [0xAA, 0xB2, 0xB3, 0xB5, 0xB9, 0xBA, 0xBC, 0xBD, 0xBE].contains char.toNat ||
        (0xC0 ≤ char.toNat && char.toNat ≤ 0xFF && char.toNat != 0xD7 && char.toNat != 0xF7)) =
      char.isAlphanum) ?_ ascii
    decide +kernel

def sampleToken : HexToken where
  digits := "0a1b2c3d".toList
  length := by decide
  hex := List.all_iff_forall_prop.mp (by decide)

theorem plan_launch_generated : Generated latin1 "wf_plan-launch_0a1b2c3d".toList :=
  ⟨"Plan launch".toList, sampleToken, by decide +kernel⟩

/-- A project named by its goal, opened from the history. -/
theorem plan_launch_requested :
    (openProject "#/history".toList "wf_plan-launch_0a1b2c3d".toList).bind servedWorkflow =
      some "wf_plan-launch_0a1b2c3d".toList :=
  (open_project_requests_id_iff plan_launch_generated "#/history".toList).mpr
    (List.all_iff_forall_prop.mp (by decide))

/-- The backend is asked for an id that no workflow has. -/
theorem cafe_migration_not_requested :
    Generated latin1 "wf_café-migration_0a1b2c3d".toList ∧
      (openProject "#/history".toList "wf_café-migration_0a1b2c3d".toList).bind servedWorkflow =
        some "wf_caf%C3%A9-migration_0a1b2c3d".toList ∧
      (openProject "#/history".toList "wf_café-migration_0a1b2c3d".toList).bind servedWorkflow ≠
        some "wf_café-migration_0a1b2c3d".toList := by
  have generated : Generated latin1 "wf_café-migration_0a1b2c3d".toList :=
    ⟨"Café migration".toList, sampleToken, by decide +kernel⟩
  have encoded : encodeURIComponent "wf_café-migration_0a1b2c3d".toList =
      "wf_caf%C3%A9-migration_0a1b2c3d".toList := by decide +kernel
  have served := openProject_served (generated_ne_nil generated) "#/history".toList
  rw [encoded] at served
  refine ⟨generated, served, ?_⟩
  rw [served]
  decide

end Generated

end ActionPlan.Frontend
