import CqlMapper.Schema.Registry
import CqlMapper.Session.World
import CqlMapper.Text.LetterCase

/-! A small application: users, their tweets, and the daily views of its pages. -/

namespace CqlMapper.Microblog

def normalizeEmail : Interceptor where
  label := "normalize-email"
  events := [.prePersist, .preUpdate]
  react fields :=
    match fields "email" with
    | some (.text email) =>
      if email.toList.any Text.isUppercase then [("email", .text (Text.lowercase email))] else []
    | _ => []

def eventLogLabel : String := "event-log"

def logEvent (event : Event) : Interceptor :=
  ⟨eventLogLabel, [event], fun _ => []⟩

def eventsSeen (notices : List Notice) : List (String × Event) :=
  notices.filterMap fun
    | .intercepted label entity event =>
      if label = eventLogLabel then some (entity, event) else none
    | _ => none

def user : EntityDeclaration where
  name := "User"
  table := "users"
  declarations := [
    .partitionKey "id" .int,
    .property "name" .text,
    .property "email" .text,
    .property "tags" (.set .text),
    .property "scores" (.list .int),
    .property "preferences" (.map .text .text),
    .counter "logins"]
  counterTable := none
  readLevel := none
  writeLevel := none
  insertStrategy := none
  interceptors := normalizeEmail :: Event.everyEvent.map logEvent
  mapper := .json

def tweet : EntityDeclaration :=
  { EntityDeclaration.simple "Tweet" "tweets" [
      .partitionKey "author" .int,
      .clusteringKey "id" .uuid .desc,
      .property "content" .text,
      .property "mentions" (.list .text)] with
    readLevel := some .localOne
    writeLevel := some .localQuorum }

/-- Beside its key a page view has nothing but counters. -/
def pageView : EntityDeclaration :=
  .simple "PageView" "page_views" [
    .partitionKey "page" .text,
    .clusteringKey "day" .text .asc,
    .counter "views",
    { Declaration.counter "clicks" with writeLevel := some .all }]

def registry : Except MappingError Registry :=
  [user, tweet, pageView].foldlM (fun registry entity => do
    registry.register (← entity.build)) []

def newUser (id : Int32) (name email : String) : Record :=
  (Record.new user.name).setAll [("id", .int id), ("name", .text name), ("email", .text email)]

def loadedUser (id : Int32) (name : String) : Record :=
  .loaded user.name [
    ("id", .int id),
    ("name", .text name),
    ("email", .text (Text.lowercase name ++ "@example.com")),
    ("tags", .setOf [.text "admin"]),
    ("scores", .list [.int 10, .int 20, .int 30]),
    ("preferences", .mapOf [(.text "theme", .text "dark")])]

def newTweet (author : Int32) (id : Uuid) (content : String) : Record :=
  (Record.new tweet.name).setAll
    [("author", .int author), ("id", .uuid id), ("content", .text content)]

def viewOf (page day : String) : Record :=
  .loaded pageView.name [("page", .text page), ("day", .text day)]

end CqlMapper.Microblog
