import JobDispatch.Log
import JobDispatch.PackageConfig
import JobDispatch.Project
import JobDispatch.Text.Quoted

/-! The three kinds of event that mean work: a published release, a pull request whose head has
changed, and commits pushed to a dist-git branch. They are tried in this order. -/

namespace JobDispatch

open Text Log.Record

def distGitTopic : String := "org.fedoraproject.prod.git.receive"

def pullRequestActions : List String := ["opened", "reopened", "synchronize"]

inductive Recognized
  | release (owner repo tag : String) (url : Option String)
  | pullRequest (owner repo headRef : String) (number : UInt64) (url : Option String)
  | distGitCommit (owner repo branch : String)
  deriving DecidableEq

namespace Recognized

def trigger : Recognized → Trigger
  | .release .. => .release
  | .pullRequest .. => .pullRequest
  | .distGitCommit .. => .commit

def side : Recognized → Side
  | .release .. | .pullRequest .. => .upstream
  | .distGitCommit .. => .downstream

def owner : Recognized → String
  | .release owner .. | .pullRequest owner .. | .distGitCommit owner .. => owner

def repo : Recognized → String
  | .release _ repo .. | .pullRequest _ repo .. | .distGitCommit _ repo _ => repo

def ref : Recognized → String
  | .release _ _ tag _ => tag
  | .pullRequest _ _ headRef _ _ => headRef
  | .distGitCommit _ _ branch => branch

def url? : Recognized → Option String
  | .release _ _ _ url | .pullRequest _ _ _ _ url => url
  | .distGitCommit .. => none

end Recognized

namespace Event

def asRelease (e : Event) : Logged (Option Recognized) :=
  let action := e.text? ["action"]
  let seen := [debug .recognition "Checking for a release event" [("action", quotedOption action)]]
  if action ≠ some "published" || !e.isTruthyAt ["release"] then ⟨none, seen⟩
  else
    match e.text? ["repository", "owner", "login"], e.text? ["repository", "name"] with
    | some owner, some repo =>
      match e.text? ["release", "tag_name"] with
      | none => ⟨none, seen ++ [warn .recognition "Release tag name is not set"]⟩
      | some tag =>
        ⟨some (.release owner repo tag (e.text? ["repository", "html_url"])),
          seen ++ [info .recognition "New release event"
            [("namespace", owner), ("repo", repo), ("tag", tag)]]⟩
    | _, _ =>
      ⟨none, seen ++
        [warn .recognition "Could not determine the full name of the released repository"]⟩

def asPullRequest (e : Event) : Logged (Option Recognized) :=
  if !e.isTruthyAt ["pull_request"] then ⟨none, [debug .recognition "Not a pull request event"]⟩
  else
    let action := e.text? ["action"]
    let seen :=
      [debug .recognition "Checking for a pull request event" [("action", quotedOption action)]]
    match action, (e.natural? ["number"]).filter (· ≠ 0) with
    | some action, some number =>
      if action ∉ pullRequestActions then ⟨none, seen⟩
      else
        match e.text? ["pull_request", "head", "repo", "owner", "login"],
          e.text? ["pull_request", "head", "repo", "name"] with
        | some owner, some repo =>
          match e.text? ["pull_request", "head", "ref"] with
          | none =>
            ⟨none, seen ++ [warn .recognition "Ref the pull request is coming from is not set"]⟩
          | some headRef =>
            let target := e.text? ["repository", "full_name"]
            ⟨some (.pullRequest owner repo headRef number (e.text? ["repository", "html_url"])),
              seen ++ [info .recognition "GitHub pull request event"
                [("pr", toString number), ("target_repo", quotedOption target)]]⟩
        | _, _ =>
          ⟨none, seen ++
            [warn .recognition
              "Could not determine the full name of the pull request head repository"]⟩
    | _, _ => ⟨none, seen⟩

def asDistGitCommit (e : Event) : Logged (Option Recognized) :=
  let topic := e.text? ["topic"]
  let seen :=
    [debug .recognition "Checking for a dist-git commit message" [("topic", quotedOption topic)]]
  if topic ≠ some distGitTopic then ⟨none, seen⟩
  else
    match e.text? ["msg", "commit", "namespace"], e.text? ["msg", "commit", "repo"] with
    | some owner, some repo =>
      match e.text? ["msg", "commit", "branch"] with
      | none => ⟨none, seen ++ [warn .recognition "Target branch for the new commits is not set"]⟩
      | some branch =>
        ⟨some (.distGitCommit owner repo branch),
          seen ++ [info .recognition "New commits added to dist-git"
            [("namespace", owner), ("repo", repo), ("branch", branch),
              ("msg_id", quotedOption (e.text? ["msg_id"]))]]⟩
    | _, _ =>
      ⟨none, seen ++
        [warn .recognition "Could not determine the full name of the dist-git repository"]⟩

def recognized (e : Event) : Logged (Option Recognized) :=
  if e.isEmpty then ⟨none, []⟩
  else
    (e.asRelease.orElse fun _ => e.asPullRequest).orElse
      fun _ => e.asDistGitCommit

end Event

end JobDispatch
