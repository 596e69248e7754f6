import CodeSearch.Proofs.Text.Splitting
import CodeSearch.Repo.Link
import Mathlib.Data.List.Basic
import Mathlib.Data.List.TakeWhile

/-!
The addresses that one repository is cloned from. However an address for ssh is written, and with the
ending `.git` or without, links come from the same host and path; a port is the only thing that an
address can say besides.
-/
namespace CodeSearch

open Text

theorem takeWhile_run {p : Char → Bool} {run : List Char} {stop : Char}
    (inside : ∀ c ∈ run, p c = true) (outside : p stop = false) (rest : List Char) :
    (run ++ stop :: rest).takeWhile p = run := by
  rw [List.takeWhile_append_of_pos inside, List.takeWhile_cons_of_neg (by simp [outside]),
    List.append_nil]

theorem dropWhile_run {p : Char → Bool} {run : List Char} {stop : Char}
    (inside : ∀ c ∈ run, p c = true) (outside : p stop = false) (rest : List Char) :
    (run ++ stop :: rest).dropWhile p = stop :: rest := by
  rw [List.dropWhile_append_of_pos inside, List.dropWhile_cons_of_neg (by simp [outside])]

namespace CloneUrl

variable {host path number user : List Char}

theorem isLine_iff {cs : List Char} : isLine cs = true ↔ '\n' ∉ cs := by
  simp [isLine, List.forall_mem_ne']

theorem isDigit_slash : isDigit '/' = false := by decide +kernel

theorem isDigit_at : isDigit '@' = false := by decide +kernel

theorem portAndPath?_number (some : number ≠ []) (digits : ∀ c ∈ number, isDigit c = true)
    (line : isLine path = true) :
    portAndPath? (':' :: (number ++ '/' :: path)) = Option.some (number, path) := by
  cases number with
  | nil => exact absurd rfl some
  | cons d ds =>
    simp only [portAndPath?, takeWhile_run digits isDigit_slash, dropWhile_run digits isDigit_slash]
    simp [line]

theorem hostPortPath?_number (some : host ≠ []) (named : ∀ c ∈ host, inHost c = true)
    (nonempty : number ≠ []) (digits : ∀ c ∈ number, isDigit c = true)
    (line : isLine path = true) :
    hostPortPath? (host ++ ':' :: (number ++ '/' :: path)) = Option.some (host, number, path) := by
  have colon : inHost ':' = false := rfl
  simp [hostPortPath?, takeWhile_run named colon, dropWhile_run named colon, some,
    portAndPath?_number nonempty digits line]

theorem hostPortPath?_slash (named : ∀ c ∈ host, inHost c = true) (path : List Char) :
    hostPortPath? (host ++ '/' :: path) = none := by
  have slash : inHost '/' = false := rfl
  simp [hostPortPath?, dropWhile_run named slash, portAndPath?]

theorem forall_inUser {run : List Char} (named : '@' ∉ run) (single : '/' ∉ run) :
    ∀ c ∈ run, (c != '@' && c != '/') = true := by
  intro c member
  simp [ne_of_mem_of_not_mem member named, ne_of_mem_of_not_mem member single]

theorem afterUser?_user (some : user ≠ []) (named : '@' ∉ user) (single : '/' ∉ user)
    (rest : List Char) : afterUser? (user ++ '@' :: rest) = Option.some rest := by
  have inside := forall_inUser named single
  have sign : ('@' != '@' && '@' != '/') = false := rfl
  cases user with
  | nil => exact absurd rfl some
  | cons c cs => simp only [afterUser?, takeWhile_run inside sign, dropWhile_run inside sign]

theorem afterUser?_none {run : List Char} (named : '@' ∉ run) (single : '/' ∉ run)
    (rest : List Char) : afterUser? (run ++ '/' :: rest) = none := by
  have inside := forall_inUser named single
  have slash : ('/' != '@' && '/' != '/') = false := rfl
  simp only [afterUser?, takeWhile_run inside slash, dropWhile_run inside slash]
  cases run <;> rfl

theorem hostAndPath?_run (named : ∀ c ∈ host, inHost c = true) (hostLine : isLine host = true)
    {sign : Char} (ends : inHost sign = false) (line : isLine path = true) :
    hostAndPath? (host ++ sign :: path) = some (host, path) := by
  have whole : path.takeWhile (· != '\n') = path := by
    rw [List.takeWhile_eq_self_iff]
    simpa [isLine] using line
  simp [hostAndPath?, takeWhile_run named ends, dropWhile_run named ends, hostLine, whole]

theorem sshUser?_eq_none {cs : List Char} (git : ¬ "git@".toList <:+: cs)
    (hg : ¬ "hg@".toList <:+: cs) : sshUser? cs = none := by
  induction cs with
  | nil => rfl
  | cons c cs ih =>
    rw [List.infix_cons_iff, not_or, ← List.isPrefixOf_iff_prefix] at git hg
    simp only [sshUser?, if_neg git.1, if_neg hg.1, ih git.2 hg.2]
    rfl

theorem sshUser?_login {login : List Char} (known : login ∈ ["git@".toList, "hg@".toList])
    (named : ∀ c ∈ host, inHost c = true) (hostLine : isLine host = true)
    {sign : Char} (ends : inHost sign = false) (line : isLine path = true) :
    sshUser? (login ++ (host ++ sign :: path)) = some (host, path) := by
  have found := hostAndPath?_run named hostLine ends line
  rcases List.mem_pair.1 known with rfl | rfl <;> simp [sshUser?, found]

theorem sshUser?_ssh (cs : List Char) : sshUser? ("ssh://".toList ++ cs) = sshUser? cs := by
  simp [sshUser?]

theorem sshWithPort?_ssh (cs : List Char) : sshWithPort? ("ssh://".toList ++ cs) =
    ((afterUser? cs).bind hostPortPath? <|> hostPortPath? cs) := by
  simp [sshWithPort?]

theorem toWeb_login {login : List Char} (known : login ∈ ["git@".toList, "hg@".toList])
    (named : ∀ c ∈ host, inHost c = true) (hostLine : isLine host = true)
    {sign : Char} (ends : inHost sign = false) (line : isLine path = true) :
    toWeb (login ++ (host ++ sign :: path)) = "//".toList ++ host ++ '/' :: path := by
  have portless : sshWithPort? (login ++ (host ++ sign :: path)) = none := by
    rcases List.mem_pair.1 known with rfl | rfl <;> simp [sshWithPort?]
  rw [toWeb, portless, sshUser?_login known named hostLine ends line]

theorem toWeb_ssh_login {login : List Char} (known : login ∈ ["git@".toList, "hg@".toList])
    (named : ∀ c ∈ host, inHost c = true) (hostLine : isLine host = true)
    (line : isLine path = true) :
    toWeb ("ssh://".toList ++ (login ++ (host ++ '/' :: path))) =
      "//".toList ++ host ++ '/' :: path := by
  have portless : sshWithPort? ("ssh://".toList ++ (login ++ (host ++ '/' :: path))) = none := by
    have user : afterUser? (login ++ (host ++ '/' :: path)) = some (host ++ '/' :: path) := by
      rcases List.mem_pair.1 known with rfl | rfl
      · exact @afterUser?_user "git".toList (by decide) (by decide) (by decide) _
      · exact @afterUser?_user "hg".toList (by decide) (by decide) (by decide) _
    -- Where no user is left out, the name of the host is what stands before the slash.
    have whole : ∀ c ∈ login ++ host, inHost c = true := by
      intro c member
      cases List.mem_append.1 member with
      | inl here =>
        have fits : ["git@".toList, "hg@".toList].all (·.all inHost) = true := rfl
        exact List.all_eq_true.1 (List.all_eq_true.1 fits login known) c here
      | inr there => exact named c there
    rw [sshWithPort?_ssh, user, Option.bind_some, hostPortPath?_slash named, ← List.append_assoc,
      hostPortPath?_slash whole]
    rfl
  rw [toWeb, portless, sshUser?_ssh, sshUser?_login known named hostLine rfl line]

theorem toWeb_user_number (nonempty : user ≠ []) (signless : '@' ∉ user) (single : '/' ∉ user)
    (some : host ≠ []) (named : ∀ c ∈ host, inHost c = true)
    (counted : number ≠ []) (digits : ∀ c ∈ number, isDigit c = true) (line : isLine path = true) :
    toWeb ("ssh://".toList ++ (user ++ '@' :: (host ++ ':' :: (number ++ '/' :: path)))) =
      "//".toList ++ host ++ ':' :: number ++ '/' :: path := by
  rw [toWeb, sshWithPort?_ssh, afterUser?_user nonempty signless single, Option.bind_some,
    hostPortPath?_number some named counted digits line]
  rfl

theorem toWeb_number (some : host ≠ []) (named : ∀ c ∈ host, inHost c = true)
    (signless : '@' ∉ host) (counted : number ≠ []) (digits : ∀ c ∈ number, isDigit c = true)
    (line : isLine path = true) :
    toWeb ("ssh://".toList ++ (host ++ ':' :: (number ++ '/' :: path))) =
      "//".toList ++ host ++ ':' :: number ++ '/' :: path := by
  have userless : afterUser? (host ++ ':' :: (number ++ '/' :: path)) = none := by
    have signs : '@' ∉ host ++ ':' :: number := by
      have free : '@' ∉ number := fun member => by simpa [isDigit_at] using digits '@' member
      simp [signless, free]
    have slashes : '/' ∉ host ++ ':' :: number := by
      have hostFree : '/' ∉ host := fun member => by simpa [inHost] using named '/' member
      have free : '/' ∉ number := fun member => by simpa [isDigit_slash] using digits '/' member
      simp [hostFree, free]
    simpa using afterUser?_none signs slashes path
  rw [toWeb, sshWithPort?_ssh, userless, Option.bind_none,
    hostPortPath?_number some named counted digits line]
  rfl

theorem toWeb_https {cs : List Char} (git : ¬ "git@".toList <:+: "https://".toList ++ cs)
    (hg : ¬ "hg@".toList <:+: "https://".toList ++ cs) :
    toWeb ("https://".toList ++ cs) = "https://".toList ++ cs := by
  have portless : sshWithPort? ("https://".toList ++ cs) = none := by simp [sshWithPort?]
  rw [toWeb, portless, sshUser?_eq_none git hg]

theorem scheme_none (cs : List Char) : scheme ("//".toList ++ cs) = ([], "//".toList ++ cs) := by
  simp [scheme, inScheme]

theorem scheme_https (cs : List Char) :
    scheme ("https://".toList ++ cs) = ("https:".toList, "//".toList ++ cs) := by
  simp [scheme, inScheme]

theorem web?_slash {cs start : List Char}
    (schemed : scheme cs = (start, "//".toList ++ (host ++ '/' :: path)))
    (some : host ≠ []) (named : ∀ c ∈ host, inHost c = true) (line : isLine path = true) :
    web? cs = Option.some ⟨start ++ "//".toList ++ host, [], path⟩ := by
  have slash : inHost '/' = false := rfl
  simp [web?, schemed, takeWhile_run named slash, dropWhile_run named slash, some, line]

theorem web?_number {cs start : List Char}
    (schemed : scheme cs = (start, "//".toList ++ (host ++ ':' :: (number ++ '/' :: path))))
    (some : host ≠ []) (named : ∀ c ∈ host, inHost c = true)
    (counted : number ≠ []) (digits : ∀ c ∈ number, isDigit c = true) (line : isLine path = true) :
    web? cs = Option.some ⟨start ++ "//".toList ++ host, number, path⟩ := by
  have colon : inHost ':' = false := rfl
  simp [web?, schemed, takeWhile_run named colon, dropWhile_run named colon, some,
    portAndPath?_number counted digits line]

end CloneUrl

namespace Text

theorem suffix_of_suffix_append {ending front path : List Char} {sign : Char}
    (absent : sign ∉ ending) (ends : ending <:+ front ++ sign :: path) : ending <:+ path := by
  have tail : sign :: path <:+ front ++ sign :: path := List.suffix_append _ _
  rcases List.suffix_or_suffix_of_suffix ends tail with short | long
  · rcases List.suffix_cons_iff.1 short with rfl | inside
    · exact absurd List.mem_cons_self absent
    · exact inside
  · exact absurd (long.subset List.mem_cons_self) absent

end Text

namespace LinkParts

def ofPage (links : LinkTemplate) (path : String) (line : Option Numeric.Signed64) (rev : String)
    (url : List Char) (w : CloneUrl.Web) : LinkParts where
  url := String.ofList url
  path := path
  rev := rev
  anchor := lineAnchor links.anchor (String.ofList (fileName path.toList)) line
  filename := String.ofList (fileName path.toList)
  host := String.ofList w.host
  port := String.ofList w.port
  project := String.ofList (projectAndRepo w.path).1
  repo := String.ofList (projectAndRepo w.path).2

theorem ofRepo_of_clone {clone ending : List Char} (bare : ¬ ".git".toList <:+ clone)
    (pages : ¬ wikiEnding <:+ clone) (ended : ending ∈ [[], ".git".toList])
    {w : CloneUrl.Web} (web : CloneUrl.web? (CloneUrl.toWeb clone) = some w)
    (links : LinkTemplate) (path : String) (line : Option Numeric.Signed64) (rev : String) :
    ofRepo ⟨String.ofList (clone ++ ending), links⟩ path line rev =
      ofPage links path line rev (CloneUrl.toWeb clone) w := by
  have stripped : dropEnding ".git".toList (clone ++ ending) = clone := by
    rcases List.mem_pair.1 ended with rfl | rfl
    · rw [List.append_nil, dropEnding_of_not_suffix bare]
    · rw [dropEnding_append]
  have wikiless : dropEnding? wikiEnding clone = none := by
    simp [dropEnding?, List.isSuffixOf_iff_suffix, pages]
  simp only [ofRepo, String.toList_ofList, stripped, wikiless, web]
  rfl

/-- A path in two at its first slash; without a slash all of it is the second part. -/
def Parted (path first rest : String) : Prop :=
  path = first ++ "/" ++ rest ∧ '/' ∉ first.toList ∨ '/' ∉ path.toList ∧ first = "" ∧ rest = path

theorem projectAndRepo_parted (path : String) :
    Parted path (String.ofList (projectAndRepo path.toList).1)
      (String.ofList (projectAndRepo path.toList).2) := by
  unfold projectAndRepo
  by_cases slash : '/' ∈ path.toList
  · obtain ⟨first, rest, cut, before⟩ := List.eq_append_cons_of_mem slash
    have found : cut? ['/'] path.toList = some (first, rest) := by rw [cut, cut?_at before]
    left
    rw [found]
    constructor
    · apply String.toList_inj.1
      simp [cut]
    · simpa using before
  · have absent : ¬ ['/'] <:+: path.toList := fun inside => slash (inside.subset List.mem_cons_self)
    right
    rw [cut?_eq_none absent]
    exact ⟨slash, rfl, String.ofList_toList⟩

end LinkParts

structure Place (host path : String) : Prop where
  named : host ≠ ""
  slash : '/' ∉ host.toList
  colon : ':' ∉ host.toList
  sign : '@' ∉ host.toList
  hostLine : '\n' ∉ host.toList
  line : '\n' ∉ path.toList
  bare : ¬ ".git".toList <:+ path.toList
  pages : ¬ ".wiki".toList <:+ path.toList

namespace Place

variable {host path : String}

theorem inHost (place : Place host path) : ∀ c ∈ host.toList, CloneUrl.inHost c = true := by
  intro c member
  simp [CloneUrl.inHost, ne_of_mem_of_not_mem member place.colon,
    ne_of_mem_of_not_mem member place.slash]

theorem nonempty (place : Place host path) : host.toList ≠ [] :=
  mt String.toList_eq_nil_iff.1 place.named

/-- An address that ends in a colon or a slash and the path says what its web address says, whether
or not `.git` stands behind it. -/
theorem ofRepo_eq (place : Place host path) (front : List Char) (sign : Char)
    (known : sign ∈ [':', '/']) {clone : String}
    (shape : clone.toList = front ++ sign :: path.toList)
    {url : List Char} (turned : CloneUrl.toWeb (front ++ sign :: path.toList) = url)
    {w : CloneUrl.Web} (web : CloneUrl.web? url = some w)
    {ending : String} (ended : ending ∈ ["", ".git"])
    (links : LinkTemplate) (file : String) (line : Option Numeric.Signed64) (rev : String) :
    LinkParts.ofRepo ⟨clone ++ ending, links⟩ file line rev =
      LinkParts.ofPage links file line rev url w := by
  subst url
  have whole : clone ++ ending = String.ofList ((front ++ sign :: path.toList) ++ ending.toList) := by
    apply String.toList_inj.1
    simp [shape]
  have inGit : ∀ sign ∈ [':', '/'], sign ∉ ".git".toList := by simp
  have inWiki : ∀ sign ∈ [':', '/'], sign ∉ ".wiki".toList := by simp
  have ends : ∀ ending ∈ ["", ".git"], ending.toList ∈ [[], ".git".toList] := by simp
  rw [whole]
  apply LinkParts.ofRepo_of_clone _ _ (ends ending ended) web
  · exact fun git => place.bare (suffix_of_suffix_append (inGit sign known) git)
  · exact fun wiki => place.pages (suffix_of_suffix_append (inWiki sign known) wiki)

theorem ofRepo_login (place : Place host path) {login : String} (known : login ∈ ["git@", "hg@"])
    {clone : String} (form : clone ∈ [login ++ host ++ ":" ++ path, login ++ host ++ "/" ++ path,
      "ssh://" ++ login ++ host ++ "/" ++ path])
    {ending : String} (ended : ending ∈ ["", ".git"]) (links : LinkTemplate) (file : String)
    (line : Option Numeric.Signed64) (rev : String) :
    LinkParts.ofRepo ⟨clone ++ ending, links⟩ file line rev =
      LinkParts.ofPage links file line rev ("//".toList ++ (host.toList ++ '/' :: path.toList))
        ⟨"//".toList ++ host.toList, [], path.toList⟩ := by
  have named := place.inHost
  have hostLine := CloneUrl.isLine_iff.2 place.hostLine
  have pathLine := CloneUrl.isLine_iff.2 place.line
  have web := CloneUrl.web?_slash (CloneUrl.scheme_none _) place.nonempty named pathLine
  have known' : login.toList ∈ ["git@".toList, "hg@".toList] := by
    simpa using (List.mem_map_of_mem known : login.toList ∈ ["git@", "hg@"].map String.toList)
  simp only [List.mem_cons, List.not_mem_nil, or_false] at form
  rcases form with rfl | rfl | rfl
  · apply place.ofRepo_eq (login.toList ++ host.toList) ':' (by simp) (by simp) _ web ended
    simpa using CloneUrl.toWeb_login known' named hostLine rfl pathLine
  · apply place.ofRepo_eq (login.toList ++ host.toList) '/' (by simp) (by simp) _ web ended
    simpa using CloneUrl.toWeb_login known' named hostLine rfl pathLine
  · apply place.ofRepo_eq ("ssh://".toList ++ (login.toList ++ host.toList)) '/' (by simp)
      (by simp) _ web ended
    simpa using CloneUrl.toWeb_ssh_login known' named hostLine pathLine

def Login (login : String) : Prop :=
  login = "" ∨ ∃ user, user ≠ "" ∧ '@' ∉ user.toList ∧ '/' ∉ user.toList ∧ login = user ++ "@"

theorem ofRepo_port (place : Place host path) {login : String} (known : Login login)
    {port : String} (counted : port ≠ "") (digits : ∀ c ∈ port.toList, CloneUrl.isDigit c = true)
    {ending : String} (ended : ending ∈ ["", ".git"]) (links : LinkTemplate) (file : String)
    (line : Option Numeric.Signed64) (rev : String) :
    LinkParts.ofRepo ⟨"ssh://" ++ login ++ host ++ ":" ++ port ++ "/" ++ path ++ ending, links⟩
        file line rev =
      LinkParts.ofPage links file line rev
        ("//".toList ++ (host.toList ++ ':' :: (port.toList ++ '/' :: path.toList)))
        ⟨"//".toList ++ host.toList, port.toList, path.toList⟩ := by
  have named := place.inHost
  have pathLine := CloneUrl.isLine_iff.2 place.line
  have counted' : port.toList ≠ [] := mt String.toList_eq_nil_iff.1 counted
  have web := CloneUrl.web?_number (CloneUrl.scheme_none _) place.nonempty named counted' digits
    pathLine
  rcases known with rfl | ⟨user, nonempty, signless, single, rfl⟩
  · apply place.ofRepo_eq ("ssh://".toList ++ (host.toList ++ ':' :: port.toList)) '/' (by simp)
      (by simp) _ web ended
    simpa using CloneUrl.toWeb_number place.nonempty named place.sign counted' digits pathLine
  · have nonempty' : user.toList ≠ [] := mt String.toList_eq_nil_iff.1 nonempty
    apply place.ofRepo_eq
      ("ssh://".toList ++ (user.toList ++ '@' :: (host.toList ++ ':' :: port.toList))) '/'
      (by simp) (by simp) _ web ended
    simpa using CloneUrl.toWeb_user_number nonempty' signless single place.nonempty named counted'
      digits pathLine

theorem ofRepo_https (place : Place host path)
    (git : ¬ "git@".toList <:+: ("https://" ++ host ++ "/" ++ path).toList)
    (hg : ¬ "hg@".toList <:+: ("https://" ++ host ++ "/" ++ path).toList)
    {ending : String} (ended : ending ∈ ["", ".git"]) (links : LinkTemplate) (file : String)
    (line : Option Numeric.Signed64) (rev : String) :
    LinkParts.ofRepo ⟨"https://" ++ host ++ "/" ++ path ++ ending, links⟩ file line rev =
      LinkParts.ofPage links file line rev
        ("https://".toList ++ (host.toList ++ '/' :: path.toList))
        ⟨"https://".toList ++ host.toList, [], path.toList⟩ := by
  have pathLine := CloneUrl.isLine_iff.2 place.line
  have web := CloneUrl.web?_slash (CloneUrl.scheme_https _) place.nonempty place.inHost pathLine
  have text : ("https://" ++ host ++ "/" ++ path).toList =
      "https://".toList ++ (host.toList ++ '/' :: path.toList) := by simp
  rw [text] at git hg
  apply place.ofRepo_eq ("https://".toList ++ host.toList) '/' (by simp) (by simp) _ web ended
  simpa using CloneUrl.toWeb_https git hg

end Place

namespace LinkParts

/-- All addresses for ssh give the same parts; one with a port gives that port besides, and a web
address its scheme. -/
theorem ofRepo_alike {host path : String} (place : Place host path) (links : LinkTemplate)
    (file : String) (line : Option Numeric.Signed64) (rev : String) :
    ∃ parts : LinkParts,
      parts.url = "//" ++ host ++ "/" ++ path ∧ parts.host = "//" ++ host ∧ parts.port = "" ∧
      Parted path parts.project parts.repo ∧
      ∀ ending ∈ ["", ".git"],
        (∀ login ∈ ["git@", "hg@"], ∀ clone ∈ [login ++ host ++ ":" ++ path,
            login ++ host ++ "/" ++ path, "ssh://" ++ login ++ host ++ "/" ++ path],
          ofRepo ⟨clone ++ ending, links⟩ file line rev = parts) ∧
        (∀ login, Place.Login login → ∀ port : String, port ≠ "" →
          (∀ c ∈ port.toList, CloneUrl.isDigit c = true) →
          ofRepo ⟨"ssh://" ++ login ++ host ++ ":" ++ port ++ "/" ++ path ++ ending, links⟩
              file line rev =
            { parts with url := "//" ++ host ++ ":" ++ port ++ "/" ++ path, port := port }) ∧
        (¬ "git@".toList <:+: ("https://" ++ host ++ "/" ++ path).toList →
          ¬ "hg@".toList <:+: ("https://" ++ host ++ "/" ++ path).toList →
          ofRepo ⟨"https://" ++ host ++ "/" ++ path ++ ending, links⟩ file line rev =
            { parts with
              url := "https://" ++ host ++ "/" ++ path
              host := "https://" ++ host }) := by
  let parts := ofPage links file line rev ("//".toList ++ (host.toList ++ '/' :: path.toList))
    ⟨"//".toList ++ host.toList, [], path.toList⟩
  have url : parts.url = "//" ++ host ++ "/" ++ path := String.toList_inj.1 (by simp [parts, ofPage])
  have named : parts.host = "//" ++ host := String.toList_inj.1 (by simp [parts, ofPage])
  refine ⟨parts, url, named, rfl, projectAndRepo_parted path, ?_⟩
  intro ending ended
  refine ⟨?_, ?_, ?_⟩
  · intro login known clone form
    exact place.ofRepo_login known form ended links file line rev
  · intro login known port counted digits
    have url' : String.ofList ("//".toList ++ (host.toList ++ ':' :: (port.toList ++
        '/' :: path.toList))) = "//" ++ host ++ ":" ++ port ++ "/" ++ path :=
      String.toList_inj.1 (by simp)
    rw [place.ofRepo_port known counted digits ended, ofPage, url', String.ofList_toList]
    rfl
  · intro git hg
    have url' : String.ofList ("https://".toList ++ (host.toList ++ '/' :: path.toList)) =
        "https://" ++ host ++ "/" ++ path := String.toList_inj.1 (by simp)
    have named' : String.ofList ("https://".toList ++ host.toList) = "https://" ++ host :=
      String.toList_inj.1 (by simp)
    rw [place.ofRepo_https git hg ended, ofPage, url', named']
    rfl

/-- A path that looks like one more address, and a user with a colon. -/
theorem ofRepo_alike_nested :
    let r : String → LinkParts := fun url => ofRepo ⟨url, {}⟩ "a.md" none "main"
    Place "git" "o/hg@x:1/r" ∧ r "hg@git:o/hg@x:1/r.git" = r "ssh://git@git/o/hg@x:1/r" ∧
      (r "git@git/o/hg@x:1/r").url = "//git/o/hg@x:1/r" ∧
      r "ssh://hg:@git:22/o/hg@x:1/r.git" = { r "git@git/o/hg@x:1/r" with
        url := "//git:22/o/hg@x:1/r", port := "22" } := by
  intro r
  have place : Place "git" "o/hg@x:1/r" := by constructor <;> decide
  obtain ⟨parts, url, -, -, -, alike⟩ := ofRepo_alike place {} "a.md" none "main"
  have login : r "hg@git:o/hg@x:1/r.git" = parts :=
    (alike ".git" (by decide)).1 "hg@" (by decide) "hg@git:o/hg@x:1/r" (by decide)
  have ssh : r "ssh://git@git/o/hg@x:1/r" = parts :=
    (alike "" (by decide)).1 "git@" (by decide) "ssh://git@git/o/hg@x:1/r" (by decide)
  have short : r "git@git/o/hg@x:1/r" = parts :=
    (alike "" (by decide)).1 "git@" (by decide) "git@git/o/hg@x:1/r" (by decide)
  have user : Place.Login "hg:@" := .inr ⟨"hg:", by decide, by decide, by decide, by decide⟩
  have digits : "22".toList.all CloneUrl.isDigit = true := by decide +kernel
  have port := (alike ".git" (by decide)).2.1 "hg:@" user "22" (by decide)
    (List.all_eq_true.1 digits)
  have same := congrArg
    (fun p : LinkParts => { p with url := "//git:22/o/hg@x:1/r", port := "22" }) short.symm
  exact ⟨place, login.trans ssh.symm, (congrArg LinkParts.url short).trans url, port.trans same⟩

end LinkParts

end CodeSearch
