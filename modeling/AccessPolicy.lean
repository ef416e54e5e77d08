import AccessPolicy.Acl.Consultation
import AccessPolicy.Main
import AccessPolicy.Text.Keyed
import AccessPolicy.Proofs.Catalog.WellFormed
import AccessPolicy.Proofs.Catalog.Step
import AccessPolicy.Proofs.Catalog.Run
import AccessPolicy.Proofs.FirstAnswer
import AccessPolicy.Proofs.Acl.Stack
import AccessPolicy.Proofs.Acl.Composition
import AccessPolicy.Proofs.Matrix.Decision
import AccessPolicy.Proofs.Matrix.Lines
import AccessPolicy.Proofs.Override
import AccessPolicy.Proofs.Policy.Export
import AccessPolicy.Proofs.Policy.Meaning
import AccessPolicy.Proofs.Matrix.Listing
import AccessPolicy.Proofs.Strategy.Visitors
import AccessPolicy.Proofs.Policy.RootMatrix
import AccessPolicy.Proofs.Acl.Permissive
import AccessPolicy.Proofs.Acl.Union
import AccessPolicy.Proofs.Acl.Mirror
import AccessPolicy.Proofs.Catalog.Forest
import AccessPolicy.Proofs.Catalog.Visibility
import AccessPolicy.Proofs.Strategy.Table
import AccessPolicy.Proofs.Strategy.Fixed
import AccessPolicy.Proofs.Strategy.Monotone
import AccessPolicy.Proofs.Policy.Names
import AccessPolicy.Proofs.Policy.Conservative
import AccessPolicy.Proofs.Acl.Report
import AccessPolicy.Proofs.Controller.Adjustment
import AccessPolicy.Proofs.Catalog.Outline
import AccessPolicy.Proofs.Traversal
import AccessPolicy.Proofs.CommandLine.Check
import AccessPolicy.Proofs.Matrix.Order
import AccessPolicy.Proofs.Matrix.RoundTrip
import AccessPolicy.Proofs.Controller.Remedy
import AccessPolicy.Proofs.Catalog.Refusal
import AccessPolicy.Proofs.Strategy.Migration
import AccessPolicy.Proofs.Catalog.Installation
import AccessPolicy.Proofs.Policy.Preparation
import AccessPolicy.Proofs.Controller.Hooks
import AccessPolicy.Proofs.Catalog.Containment
import AccessPolicy.Proofs.Data.Tree
import AccessPolicy.Proofs.Settings.Environment
