import SiteDesk.Proofs.Serving

/-!
Commands as texts and as requests. The descriptor of a text, written as JSON, reads as a request for
that same descriptor, so that the request is carried out in the way of the text. A request that is
written and read again is the same request.
-/
namespace SiteDesk.Command

def Descriptor.request (descriptor : Descriptor) : Request :=
  ⟨descriptor.action.name, descriptor.payload, some descriptor.raw⟩

@[simp] theorem Descriptor.descriptor_request (descriptor : Descriptor) :
    descriptor.request.descriptor = .ok descriptor := by
  simp only [request, Request.descriptor, Action.ofName?_name, Request.commandText,
    Option.getD_some]

@[simp] theorem Descriptor.toJson_request (descriptor : Descriptor) :
    descriptor.request.toJson = descriptor.toJson := by
  unfold toJson
  rw [Action.tag_eq_name]
  rfl

/-- No member of a written request is taken for another, and a text that is left out is none. -/
@[simp] theorem Request.ofJson?_toJson (request : Request) :
    Request.ofJson? request.toJson = some request := by
  obtain ⟨action, payload, raw⟩ := request
  cases raw with
  | none => rfl
  | some raw => rfl

theorem executeRequest_of_parse {text : String} {descriptor : Descriptor} {request : Request}
    (parsed : parse text = .ok descriptor) (asked : request.descriptor = .ok descriptor)
    (config : Config) (actor : Option String) :
    executeRequest config actor request = execute config actor text := by
  unfold execute executeRequest
  rw [parsed, asked]

/-- The descriptor of a command text, written as JSON, is read as a request for it. The text and the
request make the same calls, and so leave the same behind on any desk. Requests are read as they
were written. -/
theorem texts_and_requests_agree :
    (∀ text descriptor, parse text = .ok descriptor →
      ∃ request, Request.ofJson? descriptor.toJson = some request ∧
        request.descriptor = .ok descriptor ∧
        ∀ config actor, execute config actor text = executeRequest config actor request ∧
          ∀ stamp desk, Desk.execute config stamp actor text desk =
            Desk.executeRequest config stamp actor request desk) ∧
    ∀ request, Request.ofJson? request.toJson = some request := by
  refine ⟨?_, Request.ofJson?_toJson⟩
  intro text descriptor parsed
  have asked := descriptor.descriptor_request
  refine ⟨descriptor.request, ?_, asked, ?_⟩
  · rw [← descriptor.toJson_request]
    exact descriptor.request.ofJson?_toJson
  · intro config actor
    have same := executeRequest_of_parse parsed asked config actor
    refine ⟨same.symm, ?_⟩
    intro stamp desk
    unfold Desk.execute Desk.executeRequest
    rw [same]

theorem texts_and_requests_agree_deletion :
    let text := "Delete  page /a now"
    let descriptor : Descriptor := ⟨.deletePage, [("target", .string "/a")], text⟩
    parse text = .ok descriptor ∧
      ∃ request, Request.ofJson? descriptor.toJson = some request ∧
        request.descriptor = .ok descriptor ∧
        ∀ config actor, execute config actor text = executeRequest config actor request ∧
          ∀ stamp desk, Desk.execute config stamp actor text desk =
            Desk.executeRequest config stamp actor request desk := by
  have parsed : parse "Delete  page /a now" =
      .ok ⟨.deletePage, [("target", .string "/a")], "Delete  page /a now"⟩ := by
    rfl
  exact ⟨parsed, texts_and_requests_agree.1 _ _ parsed⟩

end SiteDesk.Command
