/-!
The actions of the desk, in table order, with their names, their tags in JSON and the kind of
resource each touches.
-/
namespace SiteDesk.Command

inductive Action where
  | createPage
  | publishPage
  | deletePage
  | createComponent
  | listContacts
  | markContactRead
  deriving DecidableEq, Repr

inductive Resource where
  | page
  | component
  | contact
  deriving DecidableEq, Repr

def Resource.name : Resource → String
  | .page => "page"
  | .component => "component"
  | .contact => "contact"

namespace Action

def all : List Action :=
  [.createPage, .publishPage, .deletePage, .createComponent, .listContacts, .markContactRead]

def name : Action → String
  | .createPage => "create_page"
  | .publishPage => "publish_page"
  | .deletePage => "delete_page"
  | .createComponent => "create_component"
  | .listContacts => "list_contacts"
  | .markContactRead => "mark_contact_read"

def resource : Action → Resource
  | .createPage | .publishPage | .deletePage => .page
  | .createComponent => .component
  | .listContacts | .markContactRead => .contact

def ofName? (name : String) : Option Action :=
  all.find? fun action => action.name = name

def title : Action → String
  | .createPage => "CreatePage"
  | .publishPage => "PublishPage"
  | .deletePage => "DeletePage"
  | .createComponent => "CreateComponent"
  | .listContacts => "ListContacts"
  | .markContactRead => "MarkContactRead"

/-- Words run together, written in small letters with an underscore before each but the first. -/
def snakeCase : List Char → List Char
  | [] => []
  | c :: rest =>
    c.toLower :: rest.flatMap fun d => if d.isUpper then ['_', d.toLower] else [d.toLower]

def tag (action : Action) : String :=
  String.ofList (snakeCase action.title.toList)

def position (action : Action) : Nat :=
  all.idxOf action

@[simp] theorem ofName?_name (action : Action) : ofName? action.name = some action := by
  cases action <;> decide

theorem name_injective {a b : Action} (h : a.name = b.name) : a = b := by
  simpa using congrArg ofName? h

theorem name_of_ofName? {text : String} {action : Action} (h : ofName? text = some action) :
    action.name = text := by
  simpa using List.find?_some h

@[simp] theorem tag_eq_name (action : Action) : action.tag = action.name := by
  cases action <;> decide +kernel

end Action

end SiteDesk.Command
