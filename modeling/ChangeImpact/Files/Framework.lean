import ChangeImpact.Failure
import ChangeImpact.Files.Workspace
import ChangeImpact.Json.Reader
/-!
# The framework of a project

The manifest of a project names its dependencies. A rule holds for a project if it names the rule's
package and one of the rule's entry files exists; the first rule that holds tells the framework and
the file from which the analyzer starts.
-/
set_option autoImplicit false

namespace ChangeImpact

open Json (Value Members)

inductive Framework where
  | nest
  | adonis
  | loopback
  | meteor
  | sails
  | feathers
  | hapi
  | koa
  | fastify
  | express
  deriving DecidableEq

namespace Framework

def name : Framework → String
  | nest => "NestJS"
  | adonis => "Adonis"
  | loopback => "Loopback"
  | meteor => "Meteor"
  | sails => "Sails"
  | feathers => "Feathers"
  | hapi => "Hapi"
  | koa => "Koa"
  | fastify => "Fastify"
  | express => "Express"

/-! ## The manifest -/

inductive ManifestError where
  | missing
  | notUtf8 (error : Utf8.Error)
  | malformed (error : Json.Error)
  | isDirectory (path : Text)
  | notDirectory (path : Text)
  | nameTooLong (path : Text)
  | notObject
  deriving DecidableEq

def ManifestError.reason : ManifestError → Text
  | missing => "package.json not found"
  | notUtf8 error => "unreadable package.json: " ++ error.message
  | malformed error => "unreadable package.json: " ++ error.message
  | isDirectory path => "unreadable package.json: " ++ isADirectory path
  | notDirectory path => "unreadable package.json: " ++ notADirectory path
  | nameTooLong path => "unreadable package.json: " ++ ChangeImpact.nameTooLong path
  | notObject => "package.json is not a JSON object"

def manifestMembers (content : Utf8.Bytes) : Except ManifestError Members :=
  match Utf8.decode content with
  | .error error => .error (.notUtf8 error)
  | .ok text =>
      match Json.read (Lines.normalizeReturns text) with
      | .error error => .error (.malformed error)
      | .ok (.object members) => .ok members
      | .ok _ => .error .notObject

def sectionKeys (members : Members) (name : String) : List Text :=
  match Members.get? members (Text.ofString name) with
  | some (.object inner) => Members.keys inner
  | _ => []

def dependencies (members : Members) : List Text :=
  sectionKeys members "dependencies" ++ sectionKeys members "devDependencies"

def readManifest (workspace : Workspace) (root : Location) : Except ManifestError Members :=
  let path := workspace.path (root.next "package.json")
  match workspace.resolve path with
  | .error .missing => .error .missing
  | .error .notDirectory => .error (.notDirectory path)
  | .error .nameTooLong => .error (.nameTooLong path)
  | .ok location =>
      match workspace.find location with
      | .missing => .error .missing
      | .notDirectory => .error (.notDirectory path)
      | .directory => .error (.isDirectory path)
      | .file content => manifestMembers content

/-! ## Rules -/

inductive Rule where
  /-- The project depends on a package and has one of the entry files. -/
  | package (framework : Framework) (needed : String) (entries : List (List Text))
  /-- The project has a marker; its entry file is not looked for. -/
  | marker (framework : Framework) (sign : Text) (entry : List Text)

def serverEntries : List (List Text) := [["app.js"], ["server.js"], ["index.js"]]

def rules : List Rule :=
  [.package nest "@nestjs/core" [["src", "main.ts"]],
    .package adonis "@adonisjs/core" [["start", "app.ts"]],
    .package loopback "@loopback/core" [["src", "index.ts"]],
    .marker meteor ".meteor" ["client", "main.js"],
    .package sails "sails" [["app.js"]],
    .package feathers "@feathersjs/feathers" [["src", "app.js"]],
    .package hapi "@hapi/hapi" [["server.js"]],
    .package koa "koa" [["app.js"]],
    .package fastify "fastify" serverEntries,
    .package express "express" serverEntries]

structure Detected where
  framework : Framework
  entry : Location
  deriving DecidableEq

def Rule.find? (workspace : Workspace) (root : Location) (packages : List Text) :
    Rule → Option Detected
  | .package framework needed entries =>
      if packages.contains (Text.ofString needed) then
        (entries.find? fun entry => workspace.exists? (root.down entry)).map fun entry =>
          ⟨framework, root.down entry⟩
      else none
  | .marker framework sign entry =>
      if workspace.exists? (root.next sign) then some ⟨framework, root.down entry⟩ else none

def detect (workspace : Workspace) (root : Location) : Except Failure Detected :=
  match readManifest workspace root with
  | .error error => .error (.noFramework (workspace.path root) error.reason)
  | .ok members =>
      match rules.findSome? (Rule.find? workspace root (dependencies members)) with
      | some detected => .ok detected
      | none => .error (.noFramework (workspace.path root) Failure.unknownFramework)

/-- Detects the framework of the project at a path as it is written. -/
def detectAt (workspace : Workspace) (path : Text) : Except Failure Detected :=
  if path.contains (.char '\x00') then .error .nullCharacter
  else detect workspace (workspace.locate path)

end Framework

end ChangeImpact
