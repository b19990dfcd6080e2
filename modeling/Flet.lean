import Flet.Python.Object
import Flet.Control.Base
import Flet.Control.Property
import Flet.Control.Class
import Flet.Control.Variables
import Flet.Control.Hooks
import Flet.Control.Pass
import Flet.Control.Isolation
import Flet.Control.Heap
import Flet.Controls.AlertDialog
import Flet.Controls.ConstrainedControl
import Flet.Controls.AppBar
import Flet.Controls.Badge
import Flet.Controls.BottomAppBar
import Flet.Controls.Card
import Flet.Controls.SafeArea
import Flet.Controls.AutoComplete
import Flet.Controls.CupertinoTextField
import Flet.Flashlight.Basic
import Flet.Flashlight.Concurrent
import Flet.Flashlight.Interleaving
import Flet.Spec.Children
import Flet.Spec.Passes
import Flet.Spec.Setters
import Flet.Spec.Isolation
